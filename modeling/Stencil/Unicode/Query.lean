/-
This file finds the character set that a property name or a property value denotes.
-/
import Stencil.Text.Basic
import Stencil.Unicode.Age
import Stencil.Unicode.SentenceBreak

namespace Stencil.Unicode

/-- Names are compared without case, spaces, underscores, hyphens, and a leading `is`. The name
`isc` is a property of its own. -/
def normalName (name : Text) : String :=
  let kept := (name.filter fun character =>
    character.toNat < 0x80 && character != ' ' && character != '_' && character != '-').map
      Char.toLower
  match name.map Char.toLower with
  | 'i' :: 's' :: _ =>
      let rest := kept.drop 2
      if rest = ['c'] then "isc" else String.ofList rest
  | _ => String.ofList kept

/-- A name alone denotes a property, a general category, or a script. Three short names belong to
categories although properties have them too. -/
def named? (name : Text) : Option Charset :=
  let key := normalName name
  let property? := if ["cf", "sc", "lc"].contains key then none else Property.named? key
  property? <|> Category.named? key <|> Script.named? key

/-- A property with a value denotes a general category, a script with or without the characters
that it shares, the versions up to one, or a class of the rules for text breaks. -/
def valued? (name value : Text) : Option Charset :=
  let key := normalName value
  match normalName name with
  | "generalcategory" | "gc" => Category.named? key
  | "script" | "sc" => Script.named? key
  | "scriptextensions" | "scx" => Script.extended? key
  | "age" => Age.named? key
  | "graphemeclusterbreak" | "gcb" => GraphemeBreak.named? key
  | "wordbreak" | "wb" => WordBreak.named? key
  | "sentencebreak" | "sb" => SentenceBreak.named? key
  | _ => none

/-- The decimal digits of all scripts. -/
def digits : Charset := Category.setOf [.decimalNumber]

/-- The characters that words are made of. -/
def wordCharacters : Charset :=
  Property.alphabetic ∪ Property.joinControl ∪
    Category.setOf
      [.nonspacingMark, .spacingMark, .enclosingMark, .decimalNumber, .connectorPunctuation]

/-- The letters that Unicode 17.0 adds. Names may be written with them. -/
def addedLetters : Charset :=
  Packed.set
    ["24paUma3.a16NrbcabaYaOAoz1Blc1sb33ehIi1lK6eycy8_e60bh18jv3b3sM6n_bvib1K1Wf5RclL8c46j"]

/-- The digits and other numbers that Unicode 17.0 adds. -/
def addedNumbers : Charset := .range 0x11DE0 0x11DE9 ∪ .range 0x16FF4 0x16FF6

/-- The characters that a name may start with. -/
def nameStart : Charset := Property.alphabetic ∪ addedLetters

/-- The letters and numbers that a name may go on with. -/
def nameCharacters : Charset :=
  nameStart ∪ Category.setOf [.decimalNumber, .letterNumber, .otherNumber] ∪ addedNumbers

end Stencil.Unicode
