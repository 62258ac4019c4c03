/-
This file shows which characters are in the sets that are built from ranges.
-/
import Mathlib.Data.List.Basic
import Stencil.Charset.Basic

namespace Stencil

namespace CodeRange

/-- A code point is in the range. -/
def Has (range : CodeRange) (code : Nat) : Prop := range.first ≤ code ∧ code ≤ range.last

/-- The ranges have code points and stand one behind the other. -/
structure Apart (ranges : List CodeRange) : Prop where
  nonempty : ∀ range ∈ ranges, range.first ≤ range.last
  ordered : ranges.Pairwise fun first second => first.last < second.first

/-- Of a range only the code points of characters are kept. -/
theorem exists_scalars_iff (range : CodeRange) (character : Char) :
    (∃ part ∈ range.scalars, part.Has character.toNat) ↔ range.Has character.toNat := by
  have valid : character.toNat < 0xD800 ∨ 0xDFFF < character.toNat ∧ character.toNat < 0x110000 := character.valid
  simp only [scalars, top, Has, List.mem_filter, List.mem_cons, List.not_mem_nil, or_false, decide_eq_true_eq]
  constructor
  · rintro ⟨part, ⟨rfl | rfl, _⟩, starts, stops⟩ <;> dsimp only at starts stops <;> omega
  · rintro ⟨starts, stops⟩
    rcases valid with below | ⟨above, bounded⟩
    · exact ⟨_, ⟨.inl rfl, by dsimp only; omega⟩, by dsimp only; omega, by dsimp only; omega⟩
    · exact ⟨_, ⟨.inr rfl, by dsimp only; omega⟩, by dsimp only; omega, by dsimp only; omega⟩

theorem scalars_nonempty {range part : CodeRange} (member : part ∈ range.scalars) : part.first ≤ part.last :=
  of_decide_eq_true (List.mem_filter.1 member).2

/-- Joined ranges begin where some range does. -/
theorem first_of_mem_join {ranges : List CodeRange} {range : CodeRange} (member : range ∈ join ranges) :
    ∃ other ∈ ranges, other.first = range.first := by
  fun_induction join ranges with
  | case1 => cases member
  | case2 only => exact ⟨range, member, rfl⟩
  | case3 first second rest meets ih =>
      obtain ⟨other, among, same⟩ := ih member
      rcases List.mem_cons.1 among with rfl | among
      · exact ⟨_, List.mem_cons_self, same⟩
      · exact ⟨other, .tail _ (.tail _ among), same⟩
  | case4 first second rest apart ih =>
      rcases List.mem_cons.1 member with rfl | member
      · exact ⟨_, List.mem_cons_self, rfl⟩
      · obtain ⟨other, among, same⟩ := ih member
        exact ⟨other, .tail _ among, same⟩

section

variable {ranges : List CodeRange}

/-- Sorted ranges that are joined stand one behind the other. -/
theorem join_apart (nonempty : ∀ range ∈ ranges, range.first ≤ range.last)
    (sorted : ranges.Pairwise fun first second => first.first ≤ second.first) : Apart (join ranges) := by
  fun_induction join ranges with
  | case1 => exact ⟨nofun, .nil⟩
  | case2 only => exact ⟨nonempty, List.pairwise_singleton _ _⟩
  | case3 first second rest meets ih =>
      obtain ⟨here, next, later⟩ : _ ∧ _ ∧ _ := by simpa only [List.forall_mem_cons] using nonempty
      obtain ⟨before, others⟩ := List.pairwise_cons.1 sorted
      refine ih (List.forall_mem_cons.2 ⟨?_, later⟩) (List.pairwise_cons.2 ⟨fun other among => ?_, ?_⟩)
      · exact Nat.le_trans here (Nat.le_max_left _ _)
      · exact before other (.tail _ among)
      · exact (List.pairwise_cons.1 others).2
  | case4 first second rest apart ih =>
      obtain ⟨here, later⟩ := List.forall_mem_cons.1 nonempty
      obtain ⟨before, others⟩ := List.pairwise_cons.1 sorted
      obtain ⟨full, ordered⟩ := ih later others
      refine ⟨List.forall_mem_cons.2 ⟨here, full⟩, List.pairwise_cons.2 ⟨fun other among => ?_, ordered⟩⟩
      obtain ⟨origin, member, same⟩ := first_of_mem_join among
      have behind : second.first ≤ origin.first := by
        rcases List.mem_cons.1 member with rfl | member
        · exact Nat.le_refl _
        · exact (List.pairwise_cons.1 others).1 origin member
      omega

/-- Joined ranges have the code points of the ranges. -/
theorem exists_join_iff (sorted : ranges.Pairwise fun first second => first.first ≤ second.first)
    (nonempty : ∀ range ∈ ranges, range.first ≤ range.last) (code : Nat) :
    (∃ range ∈ join ranges, range.Has code) ↔ ∃ range ∈ ranges, range.Has code := by
  fun_induction join ranges with
  | case1 => exact Iff.rfl
  | case2 => exact Iff.rfl
  | case3 first second rest meets ih =>
      obtain ⟨here, next, later⟩ : _ ∧ _ ∧ _ := by simpa only [List.forall_mem_cons] using nonempty
      obtain ⟨before, others⟩ := List.pairwise_cons.1 sorted
      have behind : first.first ≤ second.first := before second List.mem_cons_self
      rw [ih (List.pairwise_cons.2 ⟨fun other among => before other (.tail _ among), (List.pairwise_cons.1 others).2⟩)
        (List.forall_mem_cons.2 ⟨Nat.le_trans here (Nat.le_max_left _ _), later⟩)]
      simp only [List.exists_mem_cons_iff, ← or_assoc]
      refine or_congr_left ?_
      simp only [Has]
      omega
  | case4 first second rest apart ih =>
      simp only [List.exists_mem_cons_iff]
      rw [ih (List.pairwise_cons.1 sorted).2 (List.forall_mem_cons.1 nonempty).2, List.exists_mem_cons_iff]

/-- From a start on, the gaps between ranges have the code points that the ranges lack. -/
theorem exists_gaps_iff (apart : Apart ranges) {start code : Nat} (bounded : code ≤ top)
    (ahead : ∀ range ∈ ranges, start ≤ range.first) :
    (∃ range ∈ gaps start ranges, range.Has code) ↔ start ≤ code ∧ ∀ range ∈ ranges, ¬range.Has code := by
  induction ranges generalizing start with
  | nil =>
      rw [gaps]
      split
      · simp [Has, bounded]
      · refine iff_of_false nofun fun given => ?_
        omega
  | cons range rest ih =>
      obtain ⟨full, others⟩ := List.forall_mem_cons.1 apart.nonempty
      obtain ⟨before, ordered⟩ := List.pairwise_cons.1 apart.ordered
      have here := ahead range List.mem_cons_self
      have above : ∀ other ∈ rest, range.last + 1 ≤ other.first := before
      have later := ih ⟨others, ordered⟩ above
      have beyond : start ≤ code → range.last + 1 ≤ code ∨ code ≤ range.last := by omega
      rw [gaps]
      split
      · rw [List.exists_mem_cons_iff, later, List.forall_mem_cons]
        simp only [Has]
        constructor
        · rintro (⟨starts, stops⟩ | ⟨behind, absent⟩)
          · refine ⟨starts, by omega, fun other among inside => ?_⟩
            have := before other among
            omega
          · exact ⟨by omega, by omega, absent⟩
        · rintro ⟨starts, outside, absent⟩
          by_cases ends : code < range.first
          · exact .inl ⟨starts, by omega⟩
          · exact .inr ⟨by omega, absent⟩
      · rw [later, List.forall_mem_cons]
        simp only [Has]
        constructor
        · rintro ⟨behind, absent⟩
          exact ⟨by omega, by omega, absent⟩
        · rintro ⟨starts, outside, absent⟩
          exact ⟨by omega, absent⟩

end

end CodeRange

namespace Charset

/-- The ranges of the set stand one behind the other. -/
def Ordered (set : Charset) : Prop := CodeRange.Apart set.ranges.toList

section

variable {set : Charset} {first second : Nat} {range other : CodeRange}

/-- A range stands before the ranges at later indices. -/
theorem Ordered.before (ordered : set.Ordered) (found : set.ranges[first]? = some range)
    (foundToo : set.ranges[second]? = some other) (earlier : first < second) :
    range.first ≤ range.last ∧ range.last < other.first ∧ other.first ≤ other.last := by
  rw [← Array.getElem?_toList] at found foundToo
  obtain ⟨inside, rfl⟩ := List.getElem?_eq_some_iff.1 found
  obtain ⟨insideToo, rfl⟩ := List.getElem?_eq_some_iff.1 foundToo
  exact ⟨ordered.nonempty _ (List.getElem_mem inside),
    List.pairwise_iff_getElem.1 ordered.ordered _ _ inside insideToo earlier,
    ordered.nonempty _ (List.getElem_mem insideToo)⟩

/-- A range that begins or ends before another has an earlier index. -/
theorem Ordered.index_lt (ordered : set.Ordered) (found : set.ranges[first]? = some range)
    (foundToo : set.ranges[second]? = some other) (less : range.first < other.first ∨ range.last < other.last) :
    first < second := by
  by_contra beyond
  rcases Nat.eq_or_lt_of_le (Nat.le_of_not_lt beyond) with rfl | later
  · rw [found] at foundToo
    cases foundToo
    omega
  · have := ordered.before foundToo found later
    omega

end

/-- A look up between two indices finds the range of a code point. -/
theorem containsWithin_iff {set : Charset} (ordered : set.Ordered) {code low high : Nat}
    (bounded : high ≤ set.ranges.size) : set.containsWithin code low high = true ↔
      ∃ (index : Nat) (range : CodeRange), low ≤ index ∧ index < high ∧ set.ranges[index]? = some range ∧
        range.Has code := by
  fun_induction containsWithin set code low high with
  | case1 low high less middle absent =>
      rw [Array.getElem?_eq_none_iff] at absent
      omega
  | case2 low high less middle range found under ih =>
      refine (ih (by omega)).trans ⟨?_, ?_⟩
      · rintro ⟨index, other, least, most, held, inside⟩
        exact ⟨index, other, least, by omega, held, inside⟩
      · rintro ⟨index, other, least, most, held, inside⟩
        have earlier := ordered.index_lt held found (.inl (Nat.lt_of_le_of_lt inside.1 under))
        exact ⟨index, other, least, earlier, held, inside⟩
  | case3 low high less middle range found notUnder above ih =>
      refine (ih bounded).trans ⟨?_, ?_⟩
      · rintro ⟨index, other, least, most, held, inside⟩
        exact ⟨index, other, by omega, most, held, inside⟩
      · rintro ⟨index, other, least, most, held, inside⟩
        have later := ordered.index_lt found held (.inr (Nat.lt_of_lt_of_le above inside.2))
        exact ⟨index, other, later, most, held, inside⟩
  | case4 low high less middle range found notUnder notOver =>
      exact iff_of_true rfl ⟨middle, range, by omega, by omega, found, by omega, by omega⟩
  | case5 low high notLess =>
      refine iff_of_false Bool.false_ne_true ?_
      rintro ⟨index, _, least, most, _⟩
      omega

/-- A character is in an ordered set if its code point is in one of the ranges. -/
theorem Ordered.contains_iff {set : Charset} (ordered : set.Ordered) {character : Char} :
    set.contains character = true ↔ ∃ range ∈ set.ranges.toList, range.Has character.toNat := by
  rw [contains, containsWithin_iff ordered (Nat.le_refl _)]
  constructor
  · rintro ⟨index, range, _, _, found, inside⟩
    exact ⟨range, Array.mem_toList_iff.2 (Array.mem_of_getElem? found), inside⟩
  · rintro ⟨range, among, inside⟩
    obtain ⟨index, found⟩ := List.mem_iff_getElem?.1 among
    rw [Array.getElem?_toList] at found
    exact ⟨index, range, Nat.zero_le _, (Array.getElem?_eq_some_iff.1 found).1, found, inside⟩

section

variable (ranges : List CodeRange)

/-- The parts of ranges in the order of their first code points. -/
theorem sorted_scalars : ((ranges.flatMap CodeRange.scalars).mergeSort fun first second =>
    first.first ≤ second.first).Pairwise fun first second => first.first ≤ second.first := by
  refine (List.pairwise_mergeSort ?_ ?_ (ranges.flatMap CodeRange.scalars)).imp of_decide_eq_true
  · intro first second third before after
    rw [decide_eq_true_eq] at before after ⊢
    exact Nat.le_trans before after
  · intro first second
    rw [Bool.or_eq_true, decide_eq_true_eq, decide_eq_true_eq]
    exact Nat.le_total _ _

theorem nonempty_scalars : ∀ range ∈ (ranges.flatMap CodeRange.scalars).mergeSort fun first second =>
    first.first ≤ second.first, range.first ≤ range.last := by
  intro range member
  obtain ⟨_, _, part⟩ := List.mem_flatMap.1 (List.mem_mergeSort.1 member)
  exact CodeRange.scalars_nonempty part

theorem ofRanges_ordered : (ofRanges ranges).Ordered :=
  CodeRange.join_apart (nonempty_scalars ranges) (sorted_scalars ranges)

/-- The set of some ranges has the characters in any of them. -/
@[simp] theorem contains_ofRanges {character : Char} :
    (ofRanges ranges).contains character = true ↔ ∃ range ∈ ranges, range.Has character.toNat := by
  rw [(ofRanges_ordered ranges).contains_iff]
  change (∃ range ∈ CodeRange.join _, _) ↔ _
  rw [CodeRange.exists_join_iff (sorted_scalars ranges) (nonempty_scalars ranges)]
  constructor
  · rintro ⟨part, member, inside⟩
    obtain ⟨range, among, partOf⟩ := List.mem_flatMap.1 (List.mem_mergeSort.1 member)
    exact ⟨range, among, (range.exists_scalars_iff character).1 ⟨part, partOf, inside⟩⟩
  · rintro ⟨range, among, inside⟩
    obtain ⟨part, partOf, held⟩ := (range.exists_scalars_iff character).2 inside
    exact ⟨part, List.mem_mergeSort.2 (List.mem_flatMap.2 ⟨range, among, partOf⟩), held⟩

end

variable {character : Char}

@[simp] theorem contains_range {first last : Nat} :
    (range first last).contains character = true ↔ first ≤ character.toNat ∧ character.toNat ≤ last := by
  rw [range, contains_ofRanges, List.exists_mem_cons_iff]
  exact or_iff_left nofun

/-- The set of one character has no other. -/
@[simp] theorem contains_single {only : Char} : (single only).contains character = true ↔ character = only := by
  rw [single, contains_range, ← Char.toNat_inj]
  omega

/-- A complement has the characters that the set lacks. -/
theorem Ordered.contains_complement {set : Charset} (ordered : set.Ordered) :
    set.complement.contains character = true ↔ set.contains character = false := by
  have bounded : character.toNat ≤ CodeRange.top := by
    have valid : character.toNat < 0xD800 ∨ 0xDFFF < character.toNat ∧ character.toNat < 0x110000 := character.valid
    rw [CodeRange.top]
    omega
  rw [complement, contains_ofRanges, CodeRange.exists_gaps_iff ordered bounded fun _ _ => Nat.zero_le _,
    Bool.eq_false_iff, Ne, ordered.contains_iff]
  simp only [Nat.zero_le, true_and, not_exists, not_and]

/-- A union has the characters of both sets. -/
theorem Ordered.contains_union {first second : Charset} (ordered : first.Ordered) (orderedToo : second.Ordered) :
    (first ∪ second).contains character = true ↔
      first.contains character = true ∨ second.contains character = true := by
  change (ofRanges _).contains character = true ↔ _
  rw [contains_ofRanges, ordered.contains_iff, orderedToo.contains_iff]
  simp only [List.mem_append, or_and_right, exists_or]

theorem union_ordered (first second : Charset) : (first ∪ second).Ordered := ofRanges_ordered _

end Charset

end Stencil
