/-
This file says when an outcome is safe and when it is decided by a condition, and joins the verdicts on two
steps.
-/
import Stencil.Error

namespace Stencil

/-- The stop refuses an input at a place. -/
def Stop.Located (stop : Stop) : Prop :=
  ∃ error place, stop = .refused error ∧ error.place? = some place

/-- A sequence of two steps fails when the first or the second does. -/
theorem bind_error {Fault First Second : Type} {step : Except Fault First}
    {next : First → Except Fault Second} {fault : Fault} (failure : step >>= next = .error fault) :
    step = .error fault ∨ ∃ value, step = .ok value ∧ next value = .error fault := by
  cases step with
  | error other => exact .inl (congrArg Except.error (Except.error.inj failure))
  | ok value => exact .inr ⟨value, rfl, failure⟩

/-- A mapped step fails when the step does. -/
theorem map_error {Fault First Second : Type} {step : Except Fault First} {change : First → Second}
    {fault : Fault} (failure : step.map change = .error fault) : step = .error fault := by
  cases step with
  | error other => exact congrArg Except.error (Except.error.inj failure)
  | ok value => cases failure

/-- An outcome is safe: it is a success with some effect, or it refuses an input at a place. -/
structure Safe {Result : Type} (outcome : Except Stop Result) (effect : Result → Prop) : Prop where
  effect : ∀ result, outcome = .ok result → effect result
  located : ∀ stop, outcome = .error stop → stop.Located

namespace Safe

variable {First Second : Type} {outcome : Except Stop First} {effect : First → Prop}

theorem of_ok {result : First} (success : outcome = .ok result) (facts : effect result) :
    Safe outcome effect where
  effect other same := Except.ok.inj (success.symm.trans same) ▸ facts
  located stop failure := by
    rw [success] at failure
    cases failure

/-- A refusal at a place is safe. -/
theorem of_error {error : Error} {place : Place} (failure : outcome = .error (.refused error))
    (placed : error.place? = some place) : Safe outcome effect where
  effect result success := by
    rw [failure] at success
    cases success
  located stop same := by
    rw [failure] at same
    cases same
    exact ⟨error, place, rfl, placed⟩

theorem weaken (safe : Safe outcome effect) {weaker : First → Prop}
    (weaken : ∀ result, effect result → weaker result) : Safe outcome weaker where
  effect result success := weaken result (safe.effect result success)
  located := safe.located

/-- Two steps are safe if the first is and the second is behind its effect. -/
theorem bind (first : Safe outcome effect) {next : First → Except Stop Second}
    {nextEffect : Second → Prop} (second : ∀ result, effect result → Safe (next result) nextEffect) :
    Safe (outcome >>= next) nextEffect where
  effect final success := by
    obtain ⟨result, done, following⟩ := bind_ok success
    exact (second result (first.effect result done)).effect final following
  located stop failure := by
    rcases bind_error failure with stopped | ⟨result, done, following⟩
    · exact first.located stop stopped
    · exact (second result (first.effect result done)).located stop following

theorem map (safe : Safe outcome effect) (change : First → Second) :
    Safe (outcome.map change) fun _ => True where
  effect _ _ := trivial
  located stop failure := safe.located stop (map_error failure)

/-- A safe outcome breaks nothing. -/
theorem unbroken (safe : Safe outcome effect) (breach : Breach) : outcome ≠ .error (.broken breach) := by
  intro failure
  obtain ⟨error, place, same, _⟩ := safe.located _ failure
  cases same

end Safe

/-- Every refusal that an outcome may be has a cause. -/
def Explained {Result : Type} (outcome : Except Stop Result) (cause : Error → Prop) : Prop :=
  ∀ error, outcome = .error (.refused error) → cause error

namespace Explained

variable {First Second : Type} {outcome : Except Stop First} {cause : Error → Prop}

theorem of_ok {result : First} (success : outcome = .ok result) : Explained outcome cause := by
  intro error failure
  rw [success] at failure
  cases failure

theorem of_broken {breach : Breach} (failure : outcome = .error (.broken breach)) :
    Explained outcome cause := by
  intro error refused
  rw [failure] at refused
  cases refused

theorem of_error {error : Error} (failure : outcome = .error (.refused error)) (given : cause error) :
    Explained outcome cause := by
  intro other refused
  rw [failure] at refused
  cases refused
  exact given

/-- The refusals of two steps are explained if those of the first are, and those of the second behind it. -/
theorem bind (first : Explained outcome cause) {next : First → Except Stop Second}
    (second : ∀ result, outcome = .ok result → Explained (next result) cause) :
    Explained (outcome >>= next) cause := by
  intro error failure
  rcases bind_error failure with stopped | ⟨result, success, following⟩
  · exact first error stopped
  · exact second result success error following

theorem map (explained : Explained outcome cause) (change : First → Second) :
    Explained (outcome.map change) cause :=
  fun error failure => explained error (map_error failure)

end Explained

/-- A condition decides an outcome: the outcome is a success with some effect if the condition holds, and
refuses an input at a place if it does not. -/
structure Decided {Result : Type} (outcome : Except Stop Result) (condition : Prop)
    (effect : Result → Prop) : Prop where
  succeeds : condition → ∃ result, outcome = .ok result ∧ effect result
  holds : ∀ result, outcome = .ok result → condition
  located : ∀ stop, outcome = .error stop → stop.Located

namespace Decided

variable {First Second : Type} {outcome : Except Stop First} {condition : Prop} {effect : First → Prop}

/-- Every success has the effect. -/
theorem effect_of_ok (decided : Decided outcome condition effect) {result : First}
    (success : outcome = .ok result) : effect result := by
  obtain ⟨other, same, facts⟩ := decided.succeeds (decided.holds result success)
  rw [success] at same
  exact Except.ok.inj same ▸ facts

theorem ok_iff (decided : Decided outcome condition effect) :
    (∃ result, outcome = .ok result) ↔ condition := by
  constructor
  · rintro ⟨result, success⟩
    exact decided.holds result success
  · intro given
    obtain ⟨result, success, _⟩ := decided.succeeds given
    exact ⟨result, success⟩

theorem safe (decided : Decided outcome condition effect) : Safe outcome effect :=
  ⟨fun _ success => decided.effect_of_ok success, decided.located⟩

theorem of_ok {result : First} (success : outcome = .ok result) (given : condition)
    (facts : effect result) : Decided outcome condition effect :=
  ⟨fun _ => ⟨result, success, facts⟩, fun _ _ => given, (Safe.of_ok success facts).located⟩

theorem of_error {place : Place} {fault : StructureFault}
    (failure : outcome = .error (.refused (.structural place fault))) (absurdly : ¬condition) :
    Decided outcome condition effect where
  succeeds given := absurd given absurdly
  holds result success := by
    rw [failure] at success
    cases success
  located := (@Safe.of_error _ _ effect _ _ failure rfl).located

/-- An equivalent condition decides the outcome too, with each weaker effect. -/
theorem imp (decided : Decided outcome condition effect) {other : Prop} {weaker : First → Prop}
    (same : other ↔ condition) (weaken : ∀ result, effect result → weaker result) :
    Decided outcome other weaker where
  succeeds given := by
    obtain ⟨result, success, facts⟩ := decided.succeeds (same.1 given)
    exact ⟨result, success, weaken result facts⟩
  holds result success := same.2 (decided.holds result success)
  located := decided.located

theorem congr (decided : Decided outcome condition effect) {other : Prop} (same : other ↔ condition) :
    Decided outcome other effect :=
  decided.imp same fun _ facts => facts

theorem weaken (decided : Decided outcome condition effect) {weaker : First → Prop}
    (weaken : ∀ result, effect result → weaker result) : Decided outcome condition weaker :=
  decided.imp .rfl weaken

/-- What decides an outcome holds for each success. -/
theorem given (decided : Decided outcome condition effect) :
    Decided outcome condition fun result => condition ∧ effect result where
  succeeds given := by
    obtain ⟨result, success, facts⟩ := decided.succeeds given
    exact ⟨result, success, given, facts⟩
  holds := decided.holds
  located := decided.located

/-- Two steps succeed if the first does and the second does behind its effect. -/
theorem bind (first : Decided outcome condition effect) {next : First → Except Stop Second}
    {nextCondition : Prop} {nextEffect : Second → Prop}
    (second : ∀ result, effect result → Decided (next result) nextCondition nextEffect) :
    Decided (outcome >>= next) (condition ∧ nextCondition) nextEffect where
  succeeds := by
    rintro ⟨given, later⟩
    obtain ⟨result, success, facts⟩ := first.succeeds given
    rw [success]
    exact (second result facts).succeeds later
  holds final success := by
    obtain ⟨result, success, following⟩ := bind_ok success
    exact ⟨first.holds result success, (second result (first.effect_of_ok success)).holds final following⟩
  located := (first.safe.bind fun result facts => (second result facts).safe).located

/-- A second step that never fails behind the effect of the first leaves the condition as it is. -/
theorem followed (first : Decided outcome condition effect) {next : First → Except Stop Second}
    {nextEffect : Second → Prop}
    (second : ∀ result, effect result → ∃ final, next result = .ok final ∧ nextEffect final) :
    Decided (outcome >>= next) condition nextEffect := by
  refine Decided.congr (first.bind fun result facts => ?_) (and_true condition).symm.to_iff
  obtain ⟨final, success, after⟩ := second result facts
  exact .of_ok success trivial after

end Decided

/-- An outcome from which a value can be read is a success with that value. -/
theorem exists_ok {Fault Result Value : Type} {outcome : Except Fault Result} {read : Result → Value}
    {value : Value} (found : outcome.toOption.map read = some value) :
    ∃ result, outcome = .ok result ∧ read result = value := by
  cases outcome with
  | error fault => cases found
  | ok result => exact ⟨result, rfl, Option.some.inj found⟩

end Stencil
