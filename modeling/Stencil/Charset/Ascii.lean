/-
This file holds the named ASCII sets.
-/
import Stencil.Charset.Basic
import Stencil.Text.Basic

namespace Stencil.Charset

/-- The ASCII digits. -/
def asciiDigit : Charset := range 0x30 0x39

/-- The ASCII letters. -/
def asciiAlpha : Charset := range 0x41 0x5A ∪ range 0x61 0x7A

/-- The ASCII letters and digits. -/
def asciiAlnum : Charset := asciiAlpha ∪ asciiDigit

/-- The ASCII letters and digits, and the underscore. -/
def asciiWord : Charset := asciiAlnum ∪ range 0x5F 0x5F

/-- The ASCII blanks. -/
def asciiSpace : Charset := range 0x09 0x0D ∪ range 0x20 0x20

/-- The ASCII set with a name. -/
def ascii? (name : Text) : Option Charset :=
  match String.ofList name with
  | "alnum" => some asciiAlnum
  | "alpha" => some asciiAlpha
  | "ascii" => some (range 0x00 0x7F)
  | "blank" => some (range 0x09 0x09 ∪ range 0x20 0x20)
  | "cntrl" => some (range 0x00 0x1F ∪ range 0x7F 0x7F)
  | "digit" => some asciiDigit
  | "graph" => some (range 0x21 0x7E)
  | "lower" => some (range 0x61 0x7A)
  | "print" => some (range 0x20 0x7E)
  | "punct" => some (range 0x21 0x7E \ asciiAlnum)
  | "space" => some asciiSpace
  | "upper" => some (range 0x41 0x5A)
  | "word" => some asciiWord
  | "xdigit" => some (asciiDigit ∪ range 0x41 0x46 ∪ range 0x61 0x66)
  | _ => none

end Stencil.Charset
