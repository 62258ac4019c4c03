/-
This file shows that a search finds the match at the least position that has one.
-/
import Stencil.Pattern.Basic

namespace Stencil.Pattern

variable {pattern : Pattern} {text : Array Char} {start : Nat}

/-- The preferred match of the pattern at a position has characters. -/
def MatchesAt (pattern : Pattern) (text : Array Char) (position : Nat) : Prop :=
  ∃ found, pattern.matchAt? text position = some found ∧ found.start < found.stop

/-- Behind the text a match has no characters. -/
theorem MatchesAt.inside {position : Nat} (here : pattern.MatchesAt text position) :
    position < text.size := by
  obtain ⟨found, matched, nonempty⟩ := here
  have := matchAt?_bounds matched
  omega

/-- A match that is found is the preferred one where it starts, and no earlier position has one. -/
theorem find?_least {found : Match} (success : pattern.find? text start = some found) :
    pattern.matchAt? text found.start = some found ∧
      ∀ position, start ≤ position → position < found.start → pattern.matchAt? text position = none := by
  fun_induction find? pattern text start with
  | case1 start here matched =>
      cases success
      have begins := (matchAt?_bounds matched).1
      refine ⟨by rw [begins, matched], fun position behind before => ?_⟩
      omega
  | case2 start unmatched inside ih =>
      obtain ⟨preferred, earlier⟩ := ih success
      refine ⟨preferred, fun position behind before => ?_⟩
      rcases Nat.eq_or_lt_of_le behind with rfl | later
      · exact unmatched
      · exact earlier position later before
  | case3 start unmatched outside => cases success

/-- If no match is found, no position of the text has one. -/
theorem matchAt?_eq_none (absent : pattern.find? text start = none) {position : Nat}
    (behind : start ≤ position) (inside : position ≤ text.size) : pattern.matchAt? text position = none := by
  fun_induction find? pattern text start with
  | case1 start here matched => cases absent
  | case2 start unmatched more ih =>
      rcases Nat.eq_or_lt_of_le behind with rfl | later
      · exact unmatched
      · exact ih absent later
  | case3 start unmatched noMore =>
      obtain rfl : position = start := by omega
      exact unmatched

/-- Before a match that is found no position matches with characters. -/
theorem not_matchesAt_before {found : Match} (success : pattern.find? text start = some found)
    {position : Nat} (behind : start ≤ position) (before : position < found.start) :
    ¬pattern.MatchesAt text position := by
  rintro ⟨other, here, _⟩
  rw [(find?_least success).2 position behind before] at here
  cases here

/-- Up to an empty match that is found no position matches with characters. -/
theorem not_matchesAt_upTo {found : Match} (success : pattern.find? text start = some found)
    (empty : ¬found.start < found.stop) {position : Nat} (behind : start ≤ position)
    (upTo : position ≤ found.stop) : ¬pattern.MatchesAt text position := by
  have ordered := find?_bounds success
  rcases Nat.lt_or_ge position found.start with before | reached
  · exact not_matchesAt_before success behind before
  · obtain rfl : position = found.start := by omega
    rintro ⟨other, here, nonempty⟩
    rw [(find?_least success).1] at here
    cases here
    exact empty nonempty

/-- A match with characters that is found is the preferred one where it starts, and no earlier position
matches with characters. -/
theorem findNonempty?_least {found : Match} (success : pattern.findNonempty? text start = some found) :
    pattern.matchAt? text found.start = some found ∧
      ∀ position, start ≤ position → position < found.start → ¬pattern.MatchesAt text position := by
  fun_induction findNonempty? pattern text start with
  | case1 start absent => cases success
  | case2 start first matched nonempty =>
      cases success
      exact ⟨(find?_least matched).1, fun _ => not_matchesAt_before matched⟩
  | case3 start first matched empty inside ih =>
      obtain ⟨preferred, later⟩ := ih success
      refine ⟨preferred, fun position behind before => ?_⟩
      rcases Nat.lt_or_ge first.stop position with beyond | upTo
      · exact later position beyond before
      · exact not_matchesAt_upTo matched empty behind upTo
  | case4 start first matched empty outside => cases success

/-- If no match with characters is found, no position matches with characters. -/
theorem not_matchesAt_of_absent (absent : pattern.findNonempty? text start = none) {position : Nat}
    (behind : start ≤ position) : ¬pattern.MatchesAt text position := by
  fun_induction findNonempty? pattern text start with
  | case1 start none =>
      intro here
      obtain ⟨found, matched, _⟩ := id here
      rw [matchAt?_eq_none none behind (Nat.le_of_lt here.inside)] at matched
      cases matched
  | case2 start first matched nonempty => cases absent
  | case3 start first matched empty inside ih =>
      rcases Nat.lt_or_ge first.stop position with beyond | upTo
      · exact ih absent beyond
      · exact not_matchesAt_upTo matched empty behind upTo
  | case4 start first matched empty outside =>
      rcases Nat.lt_or_ge first.stop position with beyond | upTo
      · intro here
        have := here.inside
        omega
      · exact not_matchesAt_upTo matched empty behind upTo

end Stencil.Pattern
