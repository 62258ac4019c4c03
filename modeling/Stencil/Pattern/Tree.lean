/-
This file holds patterns as they are written.
-/
import Stencil.Charset.Basic
import Stencil.Text.Basic

namespace Stencil.Pattern

/-- The letters of the modes. -/
inductive Mode where
  | ignoreCase
  | multiLine
  | dotAll
  | swapGreed
  | unicode
  | crlf
  | extended
  deriving Repr, DecidableEq

/-- A change of modes turns each of some modes on or off. -/
abbrev ModeChange := List (Mode × Bool)

/-- The assertions as they are written. -/
inductive Assertion where
  | lineStart
  | lineEnd
  | textStart
  | textEnd
  | wordBoundary
  | notWordBoundary
  | wordStart
  | wordEnd
  | wordStartHalf
  | wordEndHalf
  deriving Repr, DecidableEq

/-- A literal is a character. Two hexadecimal digits after `x` may also write a byte. -/
structure Literal where
  character : Char
  isByte : Bool := false
  deriving Repr, DecidableEq

/-- The sets that have a name. -/
inductive SetName where
  | digit
  | space
  | word
  | ascii (set : Charset)
  | property (name : Text)
  | valued (name value : Text)
  deriving Repr, DecidableEq

/-- A named set or what it lacks. -/
structure NamedSet where
  name : SetName
  negated : Bool
  deriving Repr, DecidableEq

/-- The operators between sets. -/
inductive SetOperator where
  | intersection
  | difference
  | symmetricDifference
  deriving Repr, DecidableEq

/-- What stands in brackets. -/
inductive SetTree where
  | literal (literal : Literal)
  | range (first last : Literal)
  | named (set : NamedSet)
  | bracketed (negated : Bool) (inner : SetTree)
  | union (items : List SetTree)
  | operation (operator : SetOperator) (left right : SetTree)
  deriving Repr

/-- A pattern. -/
inductive Tree where
  | empty
  | modes (change : ModeChange)
  | literal (literal : Literal)
  | dot
  | assertion (assertion : Assertion)
  | named (set : NamedSet)
  | bracketed (negated : Bool) (inner : SetTree)
  | repetition (least : Nat) (most? : Option Nat) (greedy : Bool) (body : Tree)
  | capture (index : Nat) (body : Tree)
  | group (change : ModeChange) (body : Tree)
  | concatenation (parts : List Tree)
  | alternation (branches : List Tree)
  deriving Repr

mutual

/-- How deep the brackets of a set nest. -/
def SetTree.depth : SetTree → Nat
  | .literal _ | .range .. | .named _ => 0
  | .bracketed _ inner => inner.depth + 1
  | .union [] => 0
  | .union items => SetTree.depthAll items + 1
  | .operation _ left right => max left.depth right.depth + 1

/-- The greatest depth among some sets. -/
def SetTree.depthAll : List SetTree → Nat
  | [] => 0
  | item :: rest => max item.depth (SetTree.depthAll rest)

end

mutual

/-- How deep a pattern nests. -/
def Tree.depth : Tree → Nat
  | .empty | .modes _ | .literal _ | .dot | .assertion _ | .named _ => 0
  | .bracketed _ inner => inner.depth + 1
  | .repetition _ _ _ body => body.depth + 1
  | .capture _ body => body.depth + 1
  | .group _ body => body.depth + 1
  | .concatenation parts => Tree.depthAll parts + 1
  | .alternation branches => Tree.depthAll branches + 1

/-- The greatest depth among some patterns. -/
def Tree.depthAll : List Tree → Nat
  | [] => 0
  | tree :: rest => max tree.depth (Tree.depthAll rest)

end

end Stencil.Pattern
