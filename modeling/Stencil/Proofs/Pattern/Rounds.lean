/-
This file follows the search for a match with characters over the byte offsets of a text. It shows that the search
finds the first such match, that it comes to an end, and that it never leaves the text or cuts a character.
-/
import Stencil.Proofs.Pattern.Search
import Stencil.Proofs.Text.Slice

namespace Stencil

namespace Text

/-- The byte offset of a position. -/
def offset (text : Text) (position : Nat) : Nat := byteSize (text.take position)

theorem offset_length (before after : Text) : (before ++ after).offset before.length = byteSize before := by
  rw [offset, List.take_left]

/-- A later position has no smaller offset. -/
theorem offset_le (text : Text) {first second : Nat} (ordered : first ≤ second) :
    text.offset first ≤ text.offset second := by
  rw [offset, offset, ← take_append_drop_take text ordered, byteSize_append]
  exact Nat.le_add_right _ _

/-- A text is cut at the offset of a position into the characters before it and those behind it. -/
theorem splitAt?_offset (text : Text) (position : Nat) :
    splitAt? text (text.offset position) = some (text.take position, text.drop position) :=
  splitAt?_eq_some_iff.2 ⟨(List.take_append_drop position text).symm, rfl⟩

/-- From the offset of a position on a text has the characters behind the position. -/
theorem slice?_offset (text : Text) (position : Nat) :
    slice? text (text.offset position) (byteSize text) = some (text.drop position) := by
  have whole : text = text.take position ++ text.drop position := (List.take_append_drop position text).symm
  refine slice?_eq_some_iff.2 ⟨⟨text.take position, [], by rw [List.append_nil]; exact whole, rfl⟩, ?_⟩
  rw [offset, ← byteSize_append, ← whole]

/-- The next position lies one character further. -/
theorem offset_succ {text rest : Text} {position : Nat} {character : Char}
    (behind : text.drop position = character :: rest) :
    text.offset (position + 1) = text.offset position + character.utf8Size := by
  have here : text[position]? = some character := by
    rw [← Nat.add_zero position, ← List.getElem?_drop, behind]
    rfl
  rw [offset, List.take_add_one, here, byteSize_append]
  rfl

/-- No boundary lies behind the end. -/
theorem IsBoundary.le {text : Text} {place : Nat} (boundary : IsBoundary text place) : place ≤ byteSize text := by
  obtain ⟨before, after, rfl, rfl⟩ := boundary
  rw [byteSize_append]
  exact Nat.le_add_right _ _

end Text

namespace Pattern

/-- The match is the first one with characters from a position on: it is the preferred match where it starts, and no
earlier position matches with characters. -/
structure IsFirst (pattern : Pattern) (text : Array Char) (start : Nat) (found : Match) : Prop where
  behind : start ≤ found.start
  preferred : pattern.matchAt? text found.start = some found
  nonempty : found.start < found.stop
  first : ∀ position, start ≤ position → position < found.start → ¬pattern.MatchesAt text position

section

variable {pattern : Pattern} {text : Array Char} {start : Nat}

theorem isFirst_of_found {found : Match} (success : pattern.findNonempty? text start = some found) :
    pattern.IsFirst text start found := by
  obtain ⟨behind, nonempty, _⟩ := findNonempty?_bounds success
  obtain ⟨preferred, first⟩ := findNonempty?_least success
  exact ⟨behind, preferred, nonempty, first⟩

theorem IsFirst.matchesAt {found : Match} (isFirst : pattern.IsFirst text start found) :
    pattern.MatchesAt text found.start :=
  ⟨found, isFirst.preferred, isFirst.nonempty⟩

/-- There is only one first match. -/
theorem IsFirst.unique {found other : Match} (isFirst : pattern.IsFirst text start found)
    (also : pattern.IsFirst text start other) : found = other := by
  rcases Nat.lt_trichotomy found.start other.start with before | same | after
  · exact absurd isFirst.matchesAt (also.first _ isFirst.behind before)
  · have preferred := isFirst.preferred
    rw [same, also.preferred] at preferred
    exact (Option.some.inj preferred).symm
  · exact absurd also.matchesAt (isFirst.first _ also.behind after)

/-- The search finds exactly the first match with characters. -/
theorem findNonempty?_eq_some_iff {found : Match} :
    pattern.findNonempty? text start = some found ↔ pattern.IsFirst text start found := by
  constructor
  · exact isFirst_of_found
  · intro isFirst
    cases outcome : pattern.findNonempty? text start with
    | none => exact absurd isFirst.matchesAt (not_matchesAt_of_absent outcome isFirst.behind)
    | some other => rw [(isFirst_of_found outcome).unique isFirst]

/-- The search finds nothing exactly if no position matches with characters. -/
theorem findNonempty?_eq_none_iff :
    pattern.findNonempty? text start = none ↔
      ∀ position, start ≤ position → ¬pattern.MatchesAt text position := by
  constructor
  · exact fun absent position => not_matchesAt_of_absent absent
  · intro none
    cases outcome : pattern.findNonempty? text start with
    | none => rfl
    | some found =>
        have isFirst := isFirst_of_found outcome
        exact absurd isFirst.matchesAt (none found.start isFirst.behind)

end

/-- A match is looked for from a byte offset on, at which the text can be cut. -/
def LooksAt (pattern : Pattern) (text : Text) (place : Nat) (found? : Option Match) : Prop :=
  ∃ before after, Text.splitAt? text place = some (before, after) ∧
    pattern.find? text.toArray before.length = found?

/-- A search looks for matches from some byte offsets on, one in each round, and ends with a result. Behind an empty
match it reads the rest of the text, and the next round starts behind the first character of the rest. -/
inductive Searches (pattern : Pattern) (text : Text) : Nat → List Nat → Option Match → Prop where
  | absent {place : Nat} (looks : pattern.LooksAt text place none) : Searches pattern text place [place] none
  | nonempty {place : Nat} {found : Match} (looks : pattern.LooksAt text place (some found))
      (nonempty : found.start < found.stop) : Searches pattern text place [place] (some found)
  | atEnd {place : Nat} {found : Match} (looks : pattern.LooksAt text place (some found))
      (empty : found.stop = found.start)
      (rest : Text.slice? text (text.offset found.stop) (Text.byteSize text) = some []) :
      Searches pattern text place [place] none
  | onward {place : Nat} {found : Match} {character : Char} {others : Text} {places : List Nat}
      {result? : Option Match} (looks : pattern.LooksAt text place (some found))
      (empty : found.stop = found.start)
      (rest : Text.slice? text (text.offset found.stop) (Text.byteSize text) = some (character :: others))
      (later : Searches pattern text (text.offset found.stop + character.utf8Size) places result?) :
      Searches pattern text place (place :: places) result?

section

variable {pattern : Pattern} {text : Text} {place : Nat} {places : List Nat} {found? : Option Match}

theorem LooksAt.boundary (looks : pattern.LooksAt text place found?) : text.IsBoundary place := by
  obtain ⟨before, after, cut, _⟩ := looks
  obtain ⟨whole, size⟩ := Text.splitAt?_eq_some_iff.1 cut
  exact ⟨before, after, whole, size⟩

/-- No match is found before the offset from which it is looked for. -/
theorem LooksAt.le_stop {found : Match} (looks : pattern.LooksAt text place (some found)) :
    place ≤ text.offset found.stop := by
  obtain ⟨before, after, cut, success⟩ := looks
  obtain ⟨rfl, rfl⟩ := Text.splitAt?_eq_some_iff.1 cut
  have bounds := find?_bounds success
  rw [← Text.offset_length before after]
  exact Text.offset_le _ (Nat.le_trans bounds.1 bounds.2.1)

/-- Each round of a search starts on a boundary of the text, behind the round before. -/
theorem Searches.increasing (searches : pattern.Searches text place places found?) :
    places.Pairwise (· < ·) ∧ ∀ other ∈ places, place ≤ other ∧ text.IsBoundary other := by
  have single {place : Nat} {found? : Option Match} (looks : pattern.LooksAt text place found?) :
      [place].Pairwise (· < ·) ∧ ∀ other ∈ [place], place ≤ other ∧ text.IsBoundary other :=
    ⟨List.pairwise_singleton _ _, List.forall_mem_singleton.2 ⟨Nat.le_refl _, looks.boundary⟩⟩
  induction searches with
  | absent looks => exact single looks
  | nonempty looks _ => exact single looks
  | atEnd looks _ _ => exact single looks
  | @onward place found character others places result? looks empty rest later ih =>
      obtain ⟨increasing, behind⟩ := ih
      have ahead : place < text.offset found.stop + character.utf8Size :=
        Nat.lt_of_le_of_lt looks.le_stop (Nat.lt_add_of_pos_right (Char.utf8Size_pos character))
      refine ⟨List.pairwise_cons.2 ⟨fun other member => ?_, increasing⟩,
        List.forall_mem_cons.2 ⟨⟨Nat.le_refl _, looks.boundary⟩, fun other member => ?_⟩⟩
      · exact Nat.lt_of_lt_of_le ahead (behind other member).1
      · exact ⟨Nat.le_trans (Nat.le_of_lt ahead) (behind other member).1, (behind other member).2⟩

/-- From a position of the text a match is looked for at the offset of the position. -/
theorem looksAt_offset (pattern : Pattern) {position : Nat} (inside : position ≤ text.length) :
    pattern.LooksAt text (text.offset position) (pattern.find? text.toArray position) :=
  ⟨_, _, text.splitAt?_offset position, by rw [List.length_take, Nat.min_eq_left inside]⟩

/-- From each position a search comes to an end, with the result that is found. -/
theorem exists_searches (pattern : Pattern) (text : Text) {position : Nat} (inside : position ≤ text.length) :
    ∃ places, pattern.Searches text (text.offset position) places
      (pattern.findNonempty? text.toArray position) := by
  have looks (position : Nat) (inside : position ≤ text.length) := looksAt_offset pattern inside
  have ordered {position : Nat} {found : Match} (success : pattern.find? text.toArray position = some found)
      (empty : ¬found.start < found.stop) : found.stop = found.start :=
    Nat.le_antisymm (Nat.le_of_not_lt empty) (find?_bounds success).2.1
  generalize characters : text.toArray = array at looks
  have size : array.size = text.length := by rw [← characters, List.size_toArray]
  fun_induction findNonempty? pattern array position with
  | case1 position absent => exact ⟨_, .absent (absent ▸ looks position inside)⟩
  | case2 position found success nonempty => exact ⟨_, .nonempty (success ▸ looks position inside) nonempty⟩
  | case3 position found success empty more ih =>
      rw [size] at more
      obtain ⟨character, others, behind⟩ : ∃ character others, text.drop found.stop = character :: others :=
        ⟨_, _, List.drop_eq_getElem_cons more⟩
      obtain ⟨places, later⟩ := ih more
      rw [Text.offset_succ behind] at later
      exact ⟨_, .onward (success ▸ looks position inside) (ordered (characters ▸ success) empty)
        (behind ▸ text.slice?_offset found.stop) later⟩
  | case4 position found success empty noMore =>
      have behind : text.drop found.stop = [] := List.drop_eq_nil_of_le (size ▸ Nat.le_of_not_lt noMore)
      exact ⟨_, .atEnd (success ▸ looks position inside) (ordered (characters ▸ success) empty)
        (behind ▸ text.slice?_offset found.stop)⟩

end

/-- From each boundary of a text the search finds exactly the first match with characters, and finds nothing exactly
if no position from there on matches with characters. It ends after rounds that start on boundaries of the text, each
behind the one before, and it reads slices of the text only. -/
theorem first_match_is_found (pattern : Pattern) (before after : Text) :
    (∀ found, pattern.findNonempty? (before ++ after).toArray before.length = some found ↔
      pattern.IsFirst (before ++ after).toArray before.length found) ∧
    (pattern.findNonempty? (before ++ after).toArray before.length = none ↔
      ∀ position, before.length ≤ position → ¬pattern.MatchesAt (before ++ after).toArray position) ∧
    ∃ places, pattern.Searches (before ++ after) (Text.byteSize before) places
        (pattern.findNonempty? (before ++ after).toArray before.length) ∧
      places.Pairwise (· < ·) ∧
      ∀ place ∈ places, Text.IsBoundary (before ++ after) place ∧ place ≤ Text.byteSize (before ++ after) := by
  have inside : before.length ≤ (before ++ after).length := by
    rw [List.length_append]
    exact Nat.le_add_right _ _
  obtain ⟨places, searches⟩ := exists_searches pattern (before ++ after) inside
  rw [Text.offset_length] at searches
  obtain ⟨increasing, behind⟩ := searches.increasing
  refine ⟨fun _ => findNonempty?_eq_some_iff, findNonempty?_eq_none_iff, places, searches, increasing,
    fun place member => ?_⟩
  have boundary := (behind place member).2
  exact ⟨boundary, boundary.le⟩

/-- A pattern with empty matches before characters of two bytes and of one byte. -/
theorem first_match_is_found_wide :
    ∃ pattern, Pattern.compile? "b*".toList = some pattern ∧
      pattern.IsFirst "ééab".toList.toArray 1 ⟨3, 4, []⟩ ∧
      (∀ position, 4 ≤ position → ¬pattern.MatchesAt "ééab".toList.toArray position) ∧
      ∃ places, pattern.Searches "ééab".toList 2 places (some ⟨3, 4, []⟩) ∧ places.Pairwise (· < ·) ∧
        ∀ place ∈ places, Text.IsBoundary "ééab".toList place ∧ place ≤ 6 := by
  have found : (Pattern.compile? "b*".toList).map (fun pattern =>
      (pattern.findNonempty? "ééab".toList.toArray 1, pattern.findNonempty? "ééab".toList.toArray 4)) =
        some (some ⟨3, 4, []⟩, none) := by
    decide +kernel
  obtain ⟨pattern, compiled, results⟩ := Option.map_eq_some_iff.1 found
  obtain ⟨first, none⟩ := Prod.mk.inj results
  obtain ⟨some_iff, _, places, searches, increasing, inside⟩ := first_match_is_found pattern ['é'] "éab".toList
  obtain ⟨_, none_iff, _⟩ := first_match_is_found pattern "ééab".toList []
  have atStart : pattern.findNonempty? (['é'] ++ "éab".toList).toArray ['é'].length = some ⟨3, 4, []⟩ := first
  have atEnd : pattern.findNonempty? ("ééab".toList ++ []).toArray "ééab".toList.length = .none := none
  rw [atStart] at searches
  exact ⟨pattern, compiled, (some_iff _).1 atStart, none_iff.1 atEnd, places, searches, increasing, inside⟩

end Pattern

end Stencil
