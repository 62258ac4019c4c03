/-
This file holds the directives of a region start line.
-/
import Stencil.Text.Basic

namespace Stencil

/-- The four directive keywords. -/
inductive Keyword where
  | define
  | replace
  | foreach
  | insert
  deriving Repr, DecidableEq

/-- The spelling of a keyword. -/
def Keyword.word : Keyword → Text
  | .define => ['D', 'E', 'F', 'I', 'N', 'E']
  | .replace => ['R', 'E', 'P', 'L', 'A', 'C', 'E']
  | .foreach => ['F', 'O', 'R', 'E', 'A', 'C', 'H']
  | .insert => ['I', 'N', 'S', 'E', 'R', 'T']

/-- The keyword with a spelling. -/
def Keyword.ofWord? (word : Text) : Option Keyword :=
  [.define, .replace, .foreach, .insert].find? fun keyword => keyword.word = word

/-- The flags that a replacement may carry. -/
inductive Flag where
  | removeIfNull
  deriving Repr, DecidableEq

/-- The spelling of a flag. -/
def Flag.word : Flag → Text
  | .removeIfNull => "REMOVE_IF_NULL".toList

/-- The flag with a spelling. -/
def Flag.ofWord? (word : Text) : Option Flag :=
  if word = Flag.removeIfNull.word then some .removeIfNull else none

/-- The set of flags of one replacement. -/
structure Flags where
  removeIfNull : Bool := false
  deriving Repr, DecidableEq

namespace Flags

/-- No flag is set. -/
def empty : Flags := {}

/-- The set with one more flag. -/
def insert (flags : Flags) : Flag → Flags
  | .removeIfNull => { flags with removeIfNull := true }

/-- The flag is in the set. -/
def contains (flags : Flags) : Flag → Bool
  | .removeIfNull => flags.removeIfNull

/-- The set has no flag. -/
def isEmpty (flags : Flags) : Bool := !flags.removeIfNull

end Flags

/-- What a directive asks for. -/
inductive Instruction where
  /-- Names a template. -/
  | define (name : Text)
  /-- Replaces each match of a pattern by the value of a field. -/
  | replace (pattern field : Text) (flags : Flags)
  /-- Repeats the region for each item of a collection. -/
  | foreach (item collection : Text)
  /-- Replaces the region by the value of a field. -/
  | insert (field : Text)
  deriving Repr, DecidableEq

/-- The keyword of an instruction. -/
def Instruction.keyword : Instruction → Keyword
  | .define _ => .define
  | .replace .. => .replace
  | .foreach .. => .foreach
  | .insert _ => .insert

/-- A directive is an instruction with the place of its keyword. -/
structure Directive where
  instruction : Instruction
  line : Nat
  column : Nat
  deriving Repr, DecidableEq

end Stencil
