/-
This file holds compiled patterns and the search for their matches.
-/
import Stencil.Pattern.Match
import Stencil.Pattern.Resolve
import Stencil.Pattern.Size

namespace Stencil

open Pattern

/-- A compiled pattern is a program and the number of its groups. -/
structure Pattern where
  program : Program
  groups : Nat

namespace Pattern

/-- The pattern that a text writes, if it is well formed and not too large. -/
def compile? (text : Text) : Option Pattern := do
  let expr ← Expr.read? text
  if expr.fits then some ⟨.ofExpr expr, expr.lastGroup⟩ else none

/-- The preferred match that starts at a position. -/
def matchAt? (pattern : Pattern) (text : Array Char) (start : Nat) : Option Match :=
  (run pattern.program text start [⟨pattern.program.entry, []⟩] none).map fun finish =>
    ⟨start, finish.stop,
      (List.range pattern.groups).map fun index => groupSpan? finish.marks (index + 1)⟩

/-- The preferred match at the least position that has one, from a position on. -/
def find? (pattern : Pattern) (text : Array Char) (start : Nat) : Option Match :=
  match pattern.matchAt? text start with
  | some found => some found
  | none => if start < text.size then find? pattern text (start + 1) else none
termination_by text.size - start

theorem run_bounds {program : Program} {text : Array Char} {position : Nat} {ways : List Way}
    {best? : Option Finish} {finish : Finish}
    (accepted : run program text position ways best? = some finish) :
    best? = some finish ∨ position ≤ finish.stop ∧ finish.stop ≤ max position text.size := by
  fun_induction run program text position ways best? with
  | case1 position ways best? waiting preferred newBest? none =>
      grind
  | case2 position ways best? waiting preferred newBest? some inside ih =>
      grind
  | case3 position ways best? waiting preferred newBest? some outside =>
      grind

theorem matchAt?_bounds {pattern : Pattern} {text : Array Char} {start : Nat} {found : Match}
    (success : pattern.matchAt? text start = some found) :
    found.start = start ∧ start ≤ found.stop ∧ found.stop ≤ max start text.size := by
  obtain ⟨finish, accepted, same⟩ := Option.map_eq_some_iff.1 success
  subst same
  rcases run_bounds accepted with absent | bounds
  · cases absent
  · exact ⟨rfl, bounds⟩

theorem find?_bounds {pattern : Pattern} {text : Array Char} {start : Nat} {found : Match}
    (success : pattern.find? text start = some found) :
    start ≤ found.start ∧ found.start ≤ found.stop ∧ found.stop ≤ max start text.size := by
  fun_induction find? pattern text start with
  | case1 start here matched =>
      cases success
      have := matchAt?_bounds matched
      omega
  | case2 start unmatched inside ih =>
      have := ih success
      omega
  | case3 start unmatched outside => cases success

/-- The first match that is not empty, from a position on. Behind an empty match the search goes
on one character later. -/
def findNonempty? (pattern : Pattern) (text : Array Char) (start : Nat) : Option Match :=
  match _success : pattern.find? text start with
  | none => none
  | some found =>
      if found.start < found.stop then some found
      else if found.stop < text.size then findNonempty? pattern text (found.stop + 1)
      else none
termination_by text.size - start
decreasing_by
  have := find?_bounds (by assumption)
  omega

/-- A match that is not empty lies in the text from the position on. -/
theorem findNonempty?_bounds {pattern : Pattern} {text : Array Char} {start : Nat} {found : Match}
    (success : pattern.findNonempty? text start = some found) :
    start ≤ found.start ∧ found.start < found.stop ∧ found.stop ≤ text.size := by
  fun_induction findNonempty? pattern text start with
  | case1 start absent => cases success
  | case2 start first matched nonempty =>
      cases success
      have := find?_bounds matched
      omega
  | case3 start first matched empty inside ih =>
      have := find?_bounds matched
      have := ih success
      omega
  | case4 start first matched empty outside => cases success

end Pattern

end Stencil
