/-
This file holds the classes of characters that the rules for breaks between graphemes use.
-/
import Stencil.Unicode.Property

namespace Stencil.Unicode.GraphemeBreak

/-- The characters that extend the grapheme before them. -/
def extend : Charset := Property.graphemeExtend ∪ Property.emojiModifier

/-- The first consonants of Korean syllables. -/
def leading : Charset := .range 0x1100 0x115F ∪ .range 0xA960 0xA97C

/-- The vowels of Korean syllables and of the one other script that stacks its vowels. -/
def vowel : Charset :=
  .range 0x1160 0x11A7 ∪ .range 0xD7B0 0xD7C6 ∪ .range 0x16D63 0x16D63 ∪ .range 0x16D67 0x16D6A

/-- The last consonants of Korean syllables. -/
def trailing : Charset := .range 0x11A8 0x11FF ∪ .range 0xD7CB 0xD7FB

/-- All Korean syllables. -/
def syllable : Charset := .range 0xAC00 0xD7A3

/-- The Korean syllables without a last consonant. The last consonants of a syllable are 27. -/
def openSyllable : Charset :=
  .ofRanges ((List.range 399).map fun index => ⟨0xAC00 + 28 * index, 0xAC00 + 28 * index⟩)

/-- The signs and letters that belong to the grapheme after them. -/
def prepend : Charset :=
  Property.prependedConcatenationMark ∪ Packed.set ["3Aoa213tbGna1Bnaba7ya2jfLYaDXa"]

/-- The controls, line ends, format characters and ignorable code points that stand alone. -/
def control : Charset :=
  (Category.setOf [.lineSeparator, .paragraphSeparator, .control, .format] ∪
      (Category.setOf [.unassigned] ∩ Property.defaultIgnorableCodePoint)) \
    (extend ∪ prepend ∪ Property.joinControl ∪ .single '\n' ∪ .single '\r')

/-- The spacing marks that start a grapheme of their own. -/
def apartMark : Charset := Packed.set ["41lbla1jccgvadfcakc2Eeabb140wabaR5cb"]

/-- The marks that take room and belong to the grapheme before them. -/
def spacingMark : Charset :=
  (Category.setOf [.spacingMark] ∪ .range 0xE33 0xE33 ∪ .range 0xEB3 0xEB3) \ (extend ∪ apartMark)

/-- The names of the classes, without case and separators. -/
def names : List (List String × Charset) :=
  [(["cr"], .single '\r'),
    (["cn", "control"], control),
    (["ex", "extend"], extend),
    (["l"], leading),
    (["lf"], .single '\n'),
    (["lv"], openSyllable),
    (["lvt"], syllable \ openSyllable),
    (["pp", "prepend"], prepend),
    (["ri", "regionalindicator"], Property.regionalIndicator),
    (["sm", "spacingmark"], spacingMark),
    (["t"], trailing),
    (["v"], vowel),
    (["zwj"], .range 0x200D 0x200D)]

/-- The characters of the class with a name. -/
def named? (name : String) : Option Charset :=
  (names.find? fun entry => entry.1.contains name).map Prod.snd

end Stencil.Unicode.GraphemeBreak
