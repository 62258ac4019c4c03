/-
This file holds the classes of characters that the rules for breaks between words use.
-/
import Stencil.Unicode.GraphemeBreak
import Stencil.Unicode.Script

namespace Stencil.Unicode.WordBreak

/-- The set of some code points. -/
def codes (points : List Nat) : Charset := .ofRanges (points.map fun point => ⟨point, point⟩)

/-- The characters of a script. -/
def script (name : String) : Charset := (Script.named? name).getD .empty

/-- The signs that enclose the number after them. The mark of an abbreviation is none of them. -/
def numberSign : Charset := Property.prependedConcatenationMark \ codes [0x70F]

/-- The characters that numbers are made of: digits, two separators, and the signs of numbers. -/
def numeral : Charset :=
  Category.setOf [.decimalNumber] ∪ .range 0x66B 0x66C ∪ numberSign

/-- The thousands separator of numbers is punctuation inside a word. -/
def numeric : Charset := numeral \ codes [0x66C]

/-- The characters that belong to the letter before them. -/
def extend : Charset := GraphemeBreak.extend ∪ Category.setOf [.spacingMark]

/-- The characters that direct the layout. -/
def format : Charset :=
  Category.setOf [.format] \ (extend ∪ numberSign ∪ .range 0x200B 0x200D)

/-- The syllables and marks of Katakana. -/
def katakana : Charset :=
  script "katakana" ∪ .range 0x3031 0x3035 ∪ .range 0x309B 0x309C ∪ codes [0x30A0, 0x30FC, 0xFF70]

/-- The letters of Hebrew, which quotes may stand between. -/
def hebrewLetter : Charset := script "hebrew" ∩ Category.setOf [.otherLetter]

/-- The letters of scripts whose words are found with a dictionary. -/
def dictionaryLetter : Charset :=
  Packed.set
    ["3Gb1zfo1sbbabebxbabwcebabgnd9a1.q1.kf1Na2tdaebBsZcel1lezqadb2a1_bY1dn13Pspke3b3cyeR1aWcoobdh"]

/-- The signs that count as letters and lack the property of letters. -/
def letterLike : Charset := Packed.set ["McdmfgbfgbabqIWcba1la3ia8Xa17Vyojb3hbUqa"]

/-- The letters of words that spaces set apart. -/
def letter : Charset :=
  (Property.alphabetic ∪ letterLike) \
    (Property.ideographic ∪ katakana ∪ dictionaryLetter ∪ script "hiragana" ∪ extend ∪
      hebrewLetter)

/-- The spaces where a line may break. -/
def space : Charset := Category.setOf [.spaceSeparator] \ codes [0xA0, 0x2007, 0x202F]

/-- The punctuation inside a number. -/
def midNumber : Charset :=
  codes
    [0x2C, 0x3B, 0x37E, 0x589, 0x60C, 0x60D, 0x66C, 0x7F8, 0x2044, 0xFE10, 0xFE14, 0xFE50, 0xFE54,
      0xFF0C, 0xFF1B]

/-- The punctuation inside a word. -/
def midLetter : Charset :=
  codes [0x3A, 0xB7, 0x387, 0x55F, 0x5F4, 0x2027, 0xFE13, 0xFE55, 0xFF1A]

/-- The punctuation inside a word or a number. -/
def midNumberLetter : Charset := codes [0x2E, 0x2018, 0x2019, 0x2024, 0xFE52, 0xFF07, 0xFF0E]

/-- The names of the classes, without case and separators. -/
def names : List (List String × Charset) :=
  [(["le", "aletter"], letter),
    (["cr"], .single '\r'),
    (["dq", "doublequote"], codes [0x22]),
    (["extend"], extend),
    (["ex", "extendnumlet"], Category.setOf [.connectorPunctuation] ∪ codes [0x202F]),
    (["fo", "format"], format),
    (["hl", "hebrewletter"], hebrewLetter),
    (["ka", "katakana"], katakana),
    (["lf"], .single '\n'),
    (["ml", "midletter"], midLetter),
    (["mn", "midnum"], midNumber),
    (["mb", "midnumlet"], midNumberLetter),
    (["nl", "newline"], codes [0xB, 0xC, 0x85, 0x2028, 0x2029]),
    (["nu", "numeric"], numeric),
    (["ri", "regionalindicator"], Property.regionalIndicator),
    (["sq", "singlequote"], codes [0x27]),
    (["wsegspace"], space),
    (["zwj"], .range 0x200D 0x200D)]

/-- The characters of the class with a name. -/
def named? (name : String) : Option Charset :=
  (names.find? fun entry => entry.1.contains name).map Prod.snd

end Stencil.Unicode.WordBreak
