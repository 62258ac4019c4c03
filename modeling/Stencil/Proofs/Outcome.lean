/-
This file changes the faults and the results of outcomes, also of those that come in two steps.
-/
import Stencil.Error

namespace Stencil

/-- An outcome with another fault or another result in place of its own. -/
def bimap {Fault Other First Second : Type} (fault : Fault → Other) (change : First → Second) :
    Except Fault First → Except Other Second
  | .error stop => .error (fault stop)
  | .ok result => .ok (change result)

section

variable {Fault Other First Second Third Fourth : Type} {fault : Fault → Other}

theorem bimap_map (first : First → Second) (second : Second → Third) (outcome : Except Fault First) :
    bimap fault second (outcome.map first) = bimap fault (second ∘ first) outcome := by
  cases outcome <;> rfl

theorem map_bimap (first : First → Second) (second : Second → Third) (outcome : Except Fault First) :
    (bimap fault first outcome).map second = bimap fault (second ∘ first) outcome := by
  cases outcome <;> rfl

/-- A sequence of two steps is changed as its steps are. -/
theorem bimap_bind {step : Except Fault First} {next : First → Except Fault Third}
    {other : Except Other Second} {following : Second → Except Other Fourth} {first : First → Second}
    {second : Third → Fourth} (same : other = bimap fault first step)
    (later : ∀ value, step = .ok value → following (first value) = bimap fault second (next value)) :
    other >>= following = bimap fault second (step >>= next) := by
  subst same
  cases step with
  | error stop => rfl
  | ok value => exact later value rfl

/-- A sequence of two steps goes on from the result of the first. -/
theorem bind_of_ok {step : Except Fault First} {next : First → Except Fault Second} {value : First}
    {outcome : Except Fault Second} (success : step = .ok value) (later : next value = outcome) :
    step >>= next = outcome := by
  rw [success]
  exact later

/-- A sequence of two steps has another result as its steps do. -/
theorem bind_eq_map {step : Except Fault First} {next : First → Except Fault Third}
    {other : Except Fault Second} {following : Second → Except Fault Fourth} {first : First → Second}
    {second : Third → Fourth} (same : other = step.map first)
    (later : ∀ value, step = .ok value → following (first value) = (next value).map second) :
    other >>= following = (step >>= next).map second := by
  subst same
  cases step with
  | error stop => rfl
  | ok value => exact later value rfl

/-- If only the second step changes, it makes the whole change. -/
theorem bind_eq_map_right {step : Except Fault First} {next : First → Except Fault Second}
    {following : First → Except Fault Third} {change : Second → Third}
    (later : ∀ value, step = .ok value → following value = (next value).map change) :
    step >>= following = (step >>= next).map change := by
  cases step with
  | error stop => rfl
  | ok value => exact later value rfl

/-- An outcome of which the fault does not change has another result only. -/
theorem bimap_eq_map {fault : Fault → Fault} (stays : ∀ stop, fault stop = stop)
    (change : First → Second) (outcome : Except Fault First) :
    bimap fault change outcome = outcome.map change := by
  cases outcome with
  | error stop => exact congrArg Except.error (stays stop)
  | ok result => rfl

end

end Stencil
