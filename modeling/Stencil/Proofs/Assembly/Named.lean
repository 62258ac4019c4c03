/-
This file shows that the names of the finished templates are the names of the definitions that were run over.
-/
import Stencil.Proofs.Assembly.Coherent
import Stencil.Proofs.Assembly.Atop

namespace Stencil

theorem TemplateSet.mem_names_insert {set : TemplateSet} {name other : Text} {template : Template} :
    other ∈ (set.insert name template).names ↔ other ∈ set.names ∨ name = other := by
  rw [← contains_iff, ← contains_iff, contains, contains, find?_insert]
  split <;> simp_all

theorem Directive.name?_eq_some {directive : Directive} {name : Text} :
    directive.name? = some name ↔ directive.instruction = .define name := by
  cases same : directive.instruction <;> simp [name?, same]

namespace Assembly.State

/-- A template with the name is finished, or is defined by a directive that is open. -/
def Defines (state : State) (name : Text) : Prop :=
  name ∈ state.finished.names ∨ name ∈ state.opened.filterMap Directive.name?

section

variable {source : Text} {state next : State} {line : Line} {name : Text}

theorem addBlank_finished {isLast : Bool} (success : state.addBlank line isLast = .ok next) :
    next.finished = state.finished := by
  obtain ⟨_, rfl⟩ | ⟨_, _, _, _, _, rfl⟩ := addBlank_ok success
  · rfl
  · rfl

theorem addText_finished {isLast : Bool} (success : state.addText line isLast = .ok next) :
    next.finished = state.finished := by
  obtain ⟨_, rfl⟩ | ⟨_, _, _, _, _, _, _, _, rfl⟩ := addText_ok success
  · rfl
  · rfl

theorem enter_finished {directive : Directive} (success : state.enter line directive = .ok next) :
    next.finished = state.finished := by
  cases enter_ok success <;> rfl

theorem enterAll_finished {directives : List Directive}
    (success : state.enterAll line directives = .ok next) : next.finished = state.finished := by
  induction directives generalizing state with
  | nil =>
      cases success
      rfl
  | cons directive rest ih =>
      obtain ⟨middle, entered, others⟩ := bind_ok success
      have first := enter_finished entered
      exact Eq.trans (ih others) first

/-- A directive that is left finishes its name, if it gives one. -/
theorem exit_names {directive : Directive} (success : state.exit source directive = .ok next) :
    name ∈ next.finished.names ↔ name ∈ state.finished.names ∨ directive.name? = some name := by
  cases exit_ok success with
  | define instruction =>
      rw [Directive.name?_eq_some.2 instruction, Option.some.injEq]
      exact TemplateSet.mem_names_insert
  | replace instruction | foreach instruction | insert instruction =>
      have unnamed : directive.name? = none := by rw [Directive.name?, instruction]
      simp [unnamed, withBody]

theorem exitAll_names {directives : List Directive}
    (success : state.exitAll source directives = .ok next) :
    name ∈ next.finished.names ↔
      name ∈ state.finished.names ∨ name ∈ directives.filterMap Directive.name? := by
  induction directives generalizing state with
  | nil =>
      cases success
      simp
  | cons directive rest ih =>
      obtain ⟨middle, _, exited, others⟩ := exitAll_cons_ok success
      rw [ih others, exit_names exited, or_assoc]
      simp only [List.mem_filterMap, List.mem_cons, exists_eq_or_imp]

/-- A line defines the names of its directives besides those that were defined. -/
theorem step_defines {isLast : Bool} (success : state.step source line isLast = .ok next) :
    next.Defines name ↔ state.Defines name ∨ name ∈ line.directives.filterMap Directive.name? := by
  have same (none : line.directives = []) (finished : next.finished = state.finished)
      (opened : next.opened = state.opened) :
      next.Defines name ↔ state.Defines name ∨ name ∈ line.directives.filterMap Directive.name? := by
    rw [Defines, Defines, finished, opened, none]
    simp
  cases step_ok success with
  | empty kind added =>
      refine same (by rw [Line.directives, kind]) (addBlank_finished added) ?_
      rw [opened, opened, (addBlank_keeps added).frames]
  | regular kind added =>
      refine same (by rw [Line.directives, kind]) (addText_finished added) ?_
      rw [opened, opened, (addText_keeps added).frames]
  | opening kind added =>
      have finished := addText_finished added
      refine same (by rw [Line.directives, kind]) finished ?_
      rw [opened_cons (addText_keeps added).frames, List.append_nil, State.opened, State.opened]
  | @directives start tokens directives entered kind parsed _ entering =>
      have opened : (entered.pushFrame line directives).opened = state.opened ++ directives := by
        rw [opened_cons rfl]
        change entered.opened ++ directives = _
        rw [State.opened, State.opened, (enterAll_keeps entering).frames]
      have kept := enterAll_finished entering
      have finished : (entered.pushFrame line directives).finished = state.finished := kept
      rw [Defines, Defines, opened, finished, Line.Opens.directives_eq (.directed kind parsed),
        List.filterMap_append, List.mem_append, or_assoc]
  | plainEnd kind held plain added =>
      have finished := addText_finished added
      refine same (by rw [Line.directives, kind]) finished ?_
      rw [opened_cons held, plain, List.append_nil, State.opened, State.opened, (addText_keeps added).frames]
  | @closing _ frame frames kind held _ _ exited =>
      have none : line.directives = [] := by rw [Line.directives, kind]
      have left : next.opened = ({ state with frames } : State).opened := by
        rw [State.opened, State.opened, (exitAll_keeps exited).frames]
      rw [Defines, Defines, left, exitAll_names exited, opened_cons held, none, List.filterMap_append,
        List.filterMap_reverse, List.mem_append, List.mem_reverse, or_assoc,
        or_comm (a := name ∈ frame.directives.filterMap Directive.name?)]
      simp only [List.filterMap_nil, List.not_mem_nil, or_false]

/-- Some lines define the names of their directives besides those that were defined. -/
theorem run_defines {atEnd : Bool} {lines : List Line}
    (success : state.run source atEnd lines = .ok next) (name : Text) :
    next.Defines name ↔
      state.Defines name ∨ name ∈ (lines.flatMap Line.directives).filterMap Directive.name? := by
  induction lines generalizing state with
  | nil =>
      cases success
      simp
  | cons line rest ih =>
      obtain ⟨middle, stepped, others⟩ := bind_ok success
      rw [ih others, step_defines stepped, List.flatMap_cons, List.filterMap_append, List.mem_append,
        or_assoc]

end

end Assembly.State

end Stencil
