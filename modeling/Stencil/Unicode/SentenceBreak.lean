/-
This file holds the classes of characters that the rules for breaks between sentences use.
-/
import Stencil.Unicode.WordBreak

namespace Stencil.Unicode.SentenceBreak

open WordBreak

/-- The characters that belong to the letter before them. -/
def extend : Charset :=
  Property.graphemeExtend ∪ Category.setOf [.spacingMark] ∪ codes [0x200D]

/-- The lowercase letters. The capitals of Georgian start no sentence, so its letters have no
case here. -/
def lower : Charset :=
  Property.lowercase \ (Property.graphemeExtend ∪ .range 0x10D0 0x10FA ∪ .range 0x10FD 0x10FF)

/-- The capitals that may start a sentence. -/
def upper : Charset :=
  (Category.setOf [.titlecaseLetter] ∪ Property.uppercase) \
    (.range 0x1C90 0x1CBA ∪ .range 0x1CBD 0x1CBF)

/-- The letters without case. -/
def otherLetter : Charset := (Property.alphabetic ∪ codes [0x5F3]) \ (lower ∪ upper ∪ extend)

/-- The full stops, which may end a sentence or an abbreviation. -/
def fullStop : Charset := codes [0x2E, 0x2024, 0xFE52, 0xFF0E]

/-- The characters that end a sentence and nothing else. -/
def terminator : Charset := Property.sentenceTerminal \ fullStop

/-- The punctuation that continues a sentence. -/
def continuation : Charset :=
  Packed.set ["1mbmbQcaE_a5obFka40jafa20kb3Vma1JGobbbYbZbcbcaka5ibmb2ia"]

/-- The quotation marks. -/
def quotation : Charset := Packed.set ["1caea4dapa7QYbbcbazb1Paf1K.nobcb3I2uc"]

/-- The brackets and quotation marks. -/
def close : Charset :=
  (Category.setOf [.openPunctuation, .closePunctuation] ∪ quotation) \
    (fullStop ∪ terminator ∪ extend)

/-- The separators of paragraphs that are no ASCII characters. -/
def separator : Charset := codes [0x85, 0x2028, 0x2029]

/-- The names of the classes, without case and separators. -/
def names : List (List String × Charset) :=
  [(["at", "aterm"], fullStop),
    (["cr"], .single '\r'),
    (["cl", "close"], close),
    (["ex", "extend"], extend),
    (["fo", "format"], Category.setOf [.format] \ (extend ∪ numberSign)),
    (["lf"], .single '\n'),
    (["lo", "lower"], lower),
    (["nu", "numeric"], numeral),
    (["le", "oletter"], otherLetter),
    (["sc", "scontinue"], continuation),
    (["st", "sterm"], terminator),
    (["se", "sep"], separator),
    (["sp"], Property.whiteSpace \ (separator ∪ .single '\n' ∪ .single '\r')),
    (["up", "upper"], upper)]

/-- The characters of the class with a name. -/
def named? (name : String) : Option Charset :=
  (names.find? fun entry => entry.1.contains name).map Prod.snd

end Stencil.Unicode.SentenceBreak
