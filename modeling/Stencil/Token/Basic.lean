/-
This file holds the tokens of a directive line.
-/
import Stencil.Text.Basic

namespace Stencil

/-- The classes of token. -/
inductive Token.Kind where
  | identifier
  | accessor
  | openParen
  | closeParen
  | quoted
  | backticked
  | comma
  | colon
  | endOfLine
  deriving Repr, DecidableEq

/-- The name of a class in a message. -/
def Token.Kind.description : Token.Kind → String
  | .identifier => "identifier"
  | .accessor => "field accessor (`$name.path`)"
  | .openParen => "`(`"
  | .closeParen => "`)`"
  | .quoted => "quoted string"
  | .backticked => "backtick string"
  | .comma => "`,`"
  | .colon => "`:`"
  | .endOfLine => "end of line"

/-- A token is a piece of the source. The line and the column are where messages point. -/
structure Token where
  kind : Token.Kind
  start : Nat
  text : Text
  line : Nat
  column : Nat
  deriving Repr, DecidableEq

namespace Token

/-- The byte offset after the token. -/
def stop (token : Token) : Nat := token.start + Text.byteSize token.text

/-- The bytes that the token covers. -/
def span (token : Token) : Span := ⟨token.start, token.stop⟩

/-- The text between the delimiters of a string token. -/
def inner (token : Token) : Text := (token.text.drop 1).dropLast

/-- The path of an accessor, without its dollar sign. -/
def path (token : Token) : Text := token.text.drop 1

end Token

end Stencil
