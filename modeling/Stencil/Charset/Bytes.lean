/-
This file writes sets of characters as sequences of byte ranges, in the order of the bytes.
-/
import Stencil.Charset.Basic

namespace Stencil

/-- A range of bytes has both ends in it. -/
structure ByteRange where
  first : Nat
  last : Nat
  deriving Repr, DecidableEq

namespace CodeRange

/-- A range of numbers of several digits to base 64 is a list of products of digit ranges. The
argument counts the digits after the first. -/
def digitProducts : (digits first last : Nat) → List (List (Nat × Nat))
  | 0, first, last => [[(first, last)]]
  | digits + 1, first, last =>
      let block := 64 ^ (digits + 1)
      let firstDigit := first / block
      let lastDigit := last / block
      if firstDigit = lastDigit then
        (digitProducts digits (first % block) (last % block)).map ((firstDigit, firstDigit) :: ·)
      else
        let startsWhole := first % block = 0
        let endsWhole := last % block = block - 1
        let head := if startsWhole then []
          else (digitProducts digits (first % block) (block - 1)).map ((firstDigit, firstDigit) :: ·)
        let tail := if endsWhole then []
          else (digitProducts digits 0 (last % block)).map ((lastDigit, lastDigit) :: ·)
        let low := if startsWhole then firstDigit else firstDigit + 1
        let high := if endsWhole then lastDigit else lastDigit - 1
        let middle :=
          if low ≤ high then [(low, high) :: List.replicate (digits + 1) (0, 63)] else []
        head ++ middle ++ tail

/-- The byte ranges of some digit ranges. The first byte shows how many follow, and each of those
has the mark of a later byte. -/
def bytesOfDigits (lead : Nat) : List (Nat × Nat) → List ByteRange
  | [] => []
  | (first, last) :: rest =>
      ⟨lead + first, lead + last⟩ :: rest.map fun (first, last) => ⟨0x80 + first, 0x80 + last⟩

/-- The code points with a number of later bytes, and the mark of their first byte. -/
def lengthClasses : List (Nat × Nat × CodeRange) :=
  [(0, 0, ⟨0, 0x7F⟩), (1, 0xC0, ⟨0x80, 0x7FF⟩), (2, 0xE0, ⟨0x800, 0xFFFF⟩),
    (3, 0xF0, ⟨0x10000, top⟩)]

/-- The byte sequences of the characters in a range. -/
def byteSequences (range : CodeRange) : List (List ByteRange) :=
  range.scalars.flatMap fun part =>
    lengthClasses.flatMap fun (digits, lead, codes) =>
      let first := max part.first codes.first
      let last := min part.last codes.last
      if first ≤ last then (digitProducts digits first last).map (bytesOfDigits lead) else []

end CodeRange

/-- The byte sequences of the characters in a set. -/
def Charset.byteSequences (set : Charset) : List (List ByteRange) :=
  set.ranges.toList.flatMap CodeRange.byteSequences

end Stencil
