/-
This file holds the classified lines of a text.
-/
import Stencil.Token.Basic

namespace Stencil

/-- What a line is for. -/
inductive Line.Kind where
  /-- The line is blank. -/
  | empty
  /-- The line opens a region that is kept as text. -/
  | opening
  /-- The line opens a region with directive tokens, whose text starts at a byte offset. -/
  | directives (start : Nat) (tokens : List Token)
  /-- The line closes a region. -/
  | closing
  /-- The line is text. -/
  | regular
  deriving Repr, DecidableEq

/-- A line without its terminator. Only a line that is not blank has an indentation. -/
structure Line where
  number : Nat
  start : Nat
  text : Text
  indentation? : Option Nat
  kind : Line.Kind
  deriving Repr, DecidableEq

/-- The byte offset after the line. -/
def Line.stop (line : Line) : Nat := line.start + Text.byteSize line.text

/-- The leading spaces of the line, none for a blank one. -/
def Line.indentation (line : Line) : Nat := line.indentation?.getD 0

end Stencil
