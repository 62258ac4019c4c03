/-
This file relates the outcomes of two runs that go side by side: both fail with related faults, or both
succeed with related results. It also tells what is related to an optional value.
-/
import Stencil.Proofs.Outcome

namespace Stencil

/-- Two outcomes match: their faults or their results are related. -/
inductive Matches {Fault Other First Second : Type} (faults : Fault → Other → Prop)
    (results : First → Second → Prop) : Except Fault First → Except Other Second → Prop where
  | error {fault : Fault} {other : Other} (related : faults fault other) :
      Matches faults results (.error fault) (.error other)
  | ok {first : First} {second : Second} (related : results first second) :
      Matches faults results (.ok first) (.ok second)

namespace Matches

variable {Fault Other First Second Third Fourth : Type} {faults : Fault → Other → Prop}
  {results : First → Second → Prop} {outcome : Except Fault First} {other : Except Other Second}

theorem imp (matching : Matches faults results outcome other) {fails : Fault → Other → Prop}
    {later : First → Second → Prop} (stops : ∀ fault other, faults fault other → fails fault other)
    (implies : ∀ first second, results first second → later first second) :
    Matches fails later outcome other := by
  cases matching with
  | error related => exact .error (stops _ _ related)
  | ok related => exact .ok (implies _ _ related)

/-- Results that match are the results of the outcomes. -/
theorem traced (matching : Matches faults results outcome other) :
    Matches faults (fun first second => results first second ∧ outcome = .ok first ∧ other = .ok second)
      outcome other := by
  cases matching with
  | error related => exact .error related
  | ok related => exact .ok ⟨related, rfl, rfl⟩

/-- Two sequences of two steps match if the first steps do and the second do behind them. -/
theorem bind (matching : Matches faults results outcome other) {later : Third → Fourth → Prop}
    {next : First → Except Fault Third} {following : Second → Except Other Fourth}
    (second : ∀ value result, results value result → Matches faults later (next value) (following result)) :
    Matches faults later (outcome >>= next) (other >>= following) := by
  cases matching with
  | error related => exact .error related
  | ok related => exact second _ _ related

theorem map (matching : Matches faults results outcome other) {later : Third → Fourth → Prop}
    {change : First → Third} {turn : Second → Fourth}
    (implies : ∀ first second, results first second → later (change first) (turn second)) :
    Matches faults later (outcome.map change) (other.map turn) := by
  cases matching with
  | error related => exact .error related
  | ok related => exact .ok (implies _ _ related)

theorem mapError {Stop Halt : Type} (matching : Matches faults results outcome other)
    {change : Fault → Stop} {turn : Other → Halt} {stops : Stop → Halt → Prop}
    (implies : ∀ fault other, faults fault other → stops (change fault) (turn other)) :
    Matches stops results (outcome.mapError change) (other.mapError turn) := by
  cases matching with
  | error related => exact .error (implies _ _ related)
  | ok related => exact .ok related

/-- Outcomes that match have a common view if their results do. -/
theorem map_eq_bimap {View : Type} {fault : Fault → Other} {view : First → View} {look : Second → View}
    (matching : Matches (fun stop halt => halt = fault stop) results outcome other)
    (seen : ∀ first second, results first second → look second = view first) :
    other.map look = bimap fault view outcome := by
  cases matching with
  | error related => exact congrArg Except.error related
  | ok related => exact congrArg Except.ok (seen _ _ related)

end Matches

/-- What is related to a value is there. -/
theorem exists_of_rel_some {First Second : Type} {related : First → Second → Prop} {first : First}
    {second? : Option Second} (rel : Option.Rel related (some first) second?) :
    ∃ second, second? = some second ∧ related first second := by
  cases rel with
  | some both => exact ⟨_, rfl, both⟩

theorem eq_none_of_rel_none {First Second : Type} {related : First → Second → Prop}
    {second? : Option Second} (rel : Option.Rel related none second?) : second? = none := by
  cases rel
  rfl

end Stencil
