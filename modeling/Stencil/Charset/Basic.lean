/-
This file holds sets of characters as sorted ranges of code points.
-/

namespace Stencil

/-- A range of code points has both ends in it. -/
structure CodeRange where
  first : Nat
  last : Nat
  deriving Repr, DecidableEq

namespace CodeRange

/-- The largest code point. -/
def top : Nat := 0x10FFFF

/-- The parts of a range outside the surrogates, which are no characters. -/
def scalars (range : CodeRange) : List CodeRange :=
  let below : CodeRange := ⟨range.first, min range.last 0xD7FF⟩
  let above : CodeRange := ⟨max range.first 0xE000, min range.last top⟩
  [below, above].filter fun part => part.first ≤ part.last

/-- Sorted ranges are joined where they overlap or touch. -/
def join : List CodeRange → List CodeRange
  | [] => []
  | [range] => [range]
  | first :: second :: rest =>
      if second.first ≤ first.last + 1 then
        join (⟨first.first, max first.last second.last⟩ :: rest)
      else first :: join (second :: rest)
termination_by ranges => ranges.length

/-- The ranges between sorted ranges, from a code point on. -/
def gaps (start : Nat) : List CodeRange → List CodeRange
  | [] => if start ≤ top then [⟨start, top⟩] else []
  | range :: rest =>
      if start < range.first then ⟨start, range.first - 1⟩ :: gaps (range.last + 1) rest
      else gaps (range.last + 1) rest

end CodeRange

/-- A character set is a list of ranges that are sorted, apart, and free of surrogates. -/
structure Charset where
  ranges : Array CodeRange
  deriving Repr, DecidableEq

namespace Charset

/-- The set of the characters in any of the ranges. -/
def ofRanges (ranges : List CodeRange) : Charset :=
  let parts := ranges.flatMap CodeRange.scalars
  ⟨(CodeRange.join (parts.mergeSort fun first second => first.first ≤ second.first)).toArray⟩

/-- The set without characters. -/
def empty : Charset := ⟨#[]⟩

/-- The set of the characters between two code points. -/
def range (first last : Nat) : Charset := ofRanges [⟨first, last⟩]

/-- The set of one character. -/
def single (character : Char) : Charset := range character.toNat character.toNat

/-- The set of all characters. -/
def all : Charset := range 0 CodeRange.top

/-- The characters of both sets. -/
def union (first second : Charset) : Charset :=
  ofRanges (first.ranges.toList ++ second.ranges.toList)

/-- The characters that a set lacks. -/
def complement (set : Charset) : Charset := ofRanges (CodeRange.gaps 0 set.ranges.toList)

/-- The characters that two sets share. -/
def intersection (first second : Charset) : Charset :=
  (first.complement.union second.complement).complement

/-- The characters of the first set that the second lacks. -/
def difference (first second : Charset) : Charset := first.intersection second.complement

/-- The characters of exactly one of two sets. -/
def symmetricDifference (first second : Charset) : Charset :=
  (first.union second).difference (first.intersection second)

instance : Union Charset := ⟨union⟩
instance : Inter Charset := ⟨intersection⟩
instance : SDiff Charset := ⟨difference⟩

/-- The set has no characters. -/
def isEmpty (set : Charset) : Bool := set.ranges.isEmpty

/-- All characters of the set are ASCII. -/
def isAscii (set : Charset) : Bool := set.ranges.all fun range => range.last ≤ 0x7F

/-- The only character of the set. -/
def only? (set : Charset) : Option Char :=
  match set.ranges with
  | #[range] => if range.first = range.last then some (Char.ofNat range.first) else none
  | _ => none

/-- A code point is looked up by halving the ranges between two indices. -/
def containsWithin (set : Charset) (code low high : Nat) : Bool :=
  if low < high then
    let middle := low + (high - low) / 2
    match set.ranges[middle]? with
    | none => false
    | some range =>
        if code < range.first then containsWithin set code low middle
        else if range.last < code then containsWithin set code (middle + 1) high
        else true
  else false
termination_by high - low

/-- The character is in the set. -/
def contains (set : Charset) (character : Char) : Bool :=
  set.containsWithin character.toNat 0 set.ranges.size

end Charset

end Stencil
