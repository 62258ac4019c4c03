/-
This file unpacks number tables that are written as text.
-/
import Stencil.Charset.Basic

namespace Stencil.Unicode.Packed

/-- A number has leading digits to base 32, which are decimal digits and the capitals up to `V`,
and ends with one digit of a second alphabet: the small letters, then `WXYZ`, an underscore and a
full stop. -/
inductive Digit where
  | leading (value : Nat)
  | final (value : Nat)

/-- The digit that a character stands for. -/
def digit (character : Char) : Digit :=
  let code := character.toNat
  if character = '.' then .final 31
  else if character = '_' then .final 30
  else if 0x61 ≤ code then .final (code - 0x61)
  else if 0x57 ≤ code then .final (code - 0x57 + 26)
  else if 0x41 ≤ code then .leading (code - 0x41 + 10)
  else .leading (code - 0x30)

/-- The numbers of a packed text, after a number whose leading digits were read. -/
def numbersFrom (value : Nat) : List Char → List Nat
  | [] => []
  | character :: rest =>
      match digit character with
      | .leading amount => numbersFrom (32 * value + amount) rest
      | .final amount => (32 * value + amount) :: numbersFrom 0 rest

/-- The numbers of a packed table. -/
def numbers (lines : List String) : List Nat := numbersFrom 0 (lines.flatMap String.toList)

/-- Each range is a distance from the range before and a length less one. -/
def rangesFrom (start : Nat) : List Nat → List CodeRange
  | gap :: length :: rest =>
      ⟨start + gap, start + gap + length⟩ :: rangesFrom (start + gap + length + 1) rest
  | _ => []

/-- The character set of a packed table. -/
def set (lines : List String) : Charset := .ofRanges (rangesFrom 0 (numbers lines))

/-- A partition of all code points is a list of lengths less one, each with the number of a class. -/
def partitionFrom (start : Nat) : List Nat → List (CodeRange × Nat)
  | length :: label :: rest =>
      (⟨start, start + length⟩, label) :: partitionFrom (start + length + 1) rest
  | _ => []

/-- The ranges of a partition with their classes. -/
def partition (lines : List String) : List (CodeRange × Nat) := partitionFrom 0 (numbers lines)

/-- The set of the code points in the classes that a test picks. -/
def pick (classes : List (CodeRange × Nat)) (test : Nat → Bool) : Charset :=
  .ofRanges ((classes.filter fun entry => test entry.2).map Prod.fst)

end Stencil.Unicode.Packed
