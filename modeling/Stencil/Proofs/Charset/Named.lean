/-
This file says which characters some sets with a name have, and how expressions of one character are written.
-/
import Stencil.Pattern.Resolve
import Stencil.Proofs.Charset.Member

namespace Stencil

namespace Charset

variable {set : Charset} {character other : Char}

/-- A set with a member is not empty. -/
theorem isEmpty_of_contains (ordered : set.Ordered) (member : set.contains character = true) : set.isEmpty = false := by
  obtain ⟨range, among, _⟩ := ordered.contains_iff.1 member
  rw [isEmpty, Array.isEmpty_eq_false_iff]
  intro none
  rw [none] at among
  cases among

/-- A set with two members has no only one. -/
theorem only?_of_two (ordered : set.Ordered) (member : set.contains character = true)
    (memberToo : set.contains other = true) (differ : character ≠ other) : set.only? = none := by
  obtain ⟨range, among, starts, stops⟩ := ordered.contains_iff.1 member
  obtain ⟨rangeToo, amongToo, startsToo, stopsToo⟩ := ordered.contains_iff.1 memberToo
  obtain ⟨⟨ranges⟩⟩ := set
  cases ranges with
  | nil => cases among
  | cons first rest =>
      cases rest with
      | nil =>
          obtain rfl := List.mem_singleton.1 among
          obtain rfl := List.mem_singleton.1 amongToo
          refine if_neg fun (point : rangeToo.first = rangeToo.last) => differ (Char.toNat_inj.1 ?_)
          omega
      | cons second rest => rfl

/-- The only character of a set of one character. -/
theorem only?_single (character : Char) : (single character).only? = some character := by
  have valid : character.toNat < 0xD800 ∨ 0xDFFF < character.toNat ∧ character.toNat < 0x110000 := character.valid
  have parts : CodeRange.scalars ⟨character.toNat, character.toNat⟩ = [⟨character.toNat, character.toNat⟩] := by
    simp only [CodeRange.scalars, CodeRange.top]
    rcases valid with below | ⟨above, bounded⟩
    · rw [List.filter_cons_of_pos (by simp; omega), List.filter_cons_of_neg (by simp; omega), List.filter_nil,
        Nat.min_eq_left (by omega)]
    · rw [List.filter_cons_of_neg (by simp; omega), List.filter_cons_of_pos (by simp; omega), List.filter_nil,
        Nat.max_eq_left (by omega), Nat.min_eq_left (by omega)]
  have ranges : (single character).ranges = #[⟨character.toNat, character.toNat⟩] := by
    simp only [single, range, ofRanges, List.flatMap_singleton, parts, List.mergeSort_singleton, CodeRange.join]
  rw [only?, ranges]
  exact (if_pos rfl).trans (congrArg some (Char.ofNat_toNat character))

end Charset

namespace Unicode

open Charset

theorem whiteSpace_ordered : Property.whiteSpace.Ordered := ofRanges_ordered _

/-- The blank characters are those with the property. -/
theorem contains_whiteSpace (character : Char) : Property.whiteSpace.contains character = Text.isBlank character := by
  have ranges : Packed.rangesFrom 0 (Packed.numbers ["jesa3eaWa5E.a2B.kZbfa1pa3Taa"]) =
      [⟨9, 13⟩, ⟨32, 32⟩, ⟨133, 133⟩, ⟨160, 160⟩, ⟨5760, 5760⟩, ⟨8192, 8202⟩, ⟨8232, 8233⟩, ⟨8239, 8239⟩,
        ⟨8287, 8287⟩, ⟨12288, 12288⟩] := by decide
  rw [Bool.eq_iff_iff, Property.whiteSpace, Packed.set, ranges, contains_ofRanges]
  simp [CodeRange.Has, Text.isBlank]
  omega

/-- The characters that are not blank are those without the property. -/
theorem contains_nonspace (character : Char) :
    Property.whiteSpace.complement.contains character = !Text.isBlank character := by
  rw [Bool.eq_iff_iff, whiteSpace_ordered.contains_complement, contains_whiteSpace, Bool.not_eq_true']

/-- The lowercase letters of ASCII may start a name. -/
theorem contains_nameStart {character : Char} (small : character.isLower = true) :
    nameStart.contains character = true := by
  have bounds : 0x61 ≤ character.toNat ∧ character.toNat ≤ 0x7A := by
    unfold Char.isLower at small
    simpa [UInt32.le_iff_toNat_le] using small
  -- The table is in the order of the code points, so that these letters stand near its front.
  have listed : ∃ entry ∈ Category.classes.take 40, entry.1.first ≤ 0x61 ∧ 0x7A ≤ entry.1.last ∧
      Category.all[entry.2]? = some .lowercaseLetter := by decide +kernel
  obtain ⟨entry, among, starts, stops, label⟩ := listed
  have letters : (Category.setOf [.uppercaseLetter, .lowercaseLetter, .titlecaseLetter, .modifierLetter,
      .otherLetter, .letterNumber]).contains character = true := by
    rw [Category.setOf, Packed.pick, contains_ofRanges]
    refine ⟨entry.1, List.mem_map_of_mem (List.mem_filter.2 ⟨List.mem_of_mem_take among, ?_⟩), by omega, by omega⟩
    rw [label]
    rfl
  have alphabetic : Property.alphabetic.contains character = true :=
    ((ofRanges_ordered _).contains_union (ofRanges_ordered _)).2 (.inl letters)
  exact ((union_ordered _ _).contains_union (ofRanges_ordered _)).2 (.inl alphabetic)

/-- A name may go on with what it may start with. -/
theorem contains_nameCharacters {character : Char} (starts : nameStart.contains character = true) :
    nameCharacters.contains character = true := by
  have ordered : nameStart.Ordered := union_ordered _ _
  refine ((union_ordered _ _).contains_union (union_ordered _ _)).2 (.inl ?_)
  exact (ordered.contains_union (ofRanges_ordered _)).2 (.inl starts)

end Unicode

namespace Pattern

open Charset

/-- The set of the dot, which matches all characters of a line. -/
def lineCharacters : Charset := .complement (.range 0x0A 0x0A)

theorem contains_lineCharacters (character : Char) : lineCharacters.contains character = (character != '\n') := by
  have feed : (single '\n').contains character = true ↔ character = '\n' := contains_single
  have ordered : (single '\n').Ordered := ofRanges_ordered _
  change (single '\n').complement.contains character = _
  rw [Bool.eq_iff_iff, ordered.contains_complement, Bool.eq_false_iff, Ne, feed, bne_iff_ne]

namespace Expr

theorem ofSet_single (character : Char) : ofSet (.single character) = .literal [character] := by
  rw [ofSet, only?_single]

theorem ofSet_of_two {set : Charset} {character other : Char} (ordered : set.Ordered)
    (member : set.contains character = true) (memberToo : set.contains other = true) (differ : character ≠ other) :
    ofSet set = .set set := by
  rw [ofSet, only?_of_two ordered member memberToo differ]

theorem ofSet_whiteSpace : ofSet Unicode.Property.whiteSpace = .set Unicode.Property.whiteSpace := by
  refine @ofSet_of_two _ ' ' '\t' Unicode.whiteSpace_ordered ?_ ?_ (by decide)
  · rw [Unicode.contains_whiteSpace]
    rfl
  · rw [Unicode.contains_whiteSpace]
    rfl

theorem ofSet_nonspace :
    ofSet Unicode.Property.whiteSpace.complement = .set Unicode.Property.whiteSpace.complement := by
  refine @ofSet_of_two _ 'a' 'b' (ofRanges_ordered _) ?_ ?_ (by decide)
  · rw [Unicode.contains_nonspace]
    rfl
  · rw [Unicode.contains_nonspace]
    rfl

theorem ofSet_lineCharacters : ofSet lineCharacters = .set lineCharacters := by
  refine @ofSet_of_two _ 'a' 'b' (ofRanges_ordered _) ?_ ?_ (by decide)
  · rw [contains_lineCharacters]
    rfl
  · rw [contains_lineCharacters]
    rfl

end Expr

end Pattern

end Stencil
