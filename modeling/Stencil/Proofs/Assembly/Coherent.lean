/-
This file shows that the state between two lines is coherent, and that a walk over the lines of a range is
safe.
-/
import Stencil.Proofs.Assembly.Standing
import Stencil.Proofs.Line.Slices

namespace Stencil.Assembly.State

/-- The directives that are open between two lines, outermost first. -/
def opened (state : State) : List Directive := state.frames.reverse.flatMap Frame.directives

/-- Between two lines a state is settled under the directives of its frames. -/
def Coherent (state : State) : Prop := state.Settled state.opened

theorem coherent_single : single.Coherent :=
  .inside
    { hasBody := rfl
      depth := rfl
      inserting := rfl
      admitted := Directive.allAdmitted_nil _ _
      named := nofun
      linked := .nil
      sound := Body.sound_empty [] 0 }

theorem coherent_multiple : multiple.Coherent := .outside outside_multiple rfl

theorem opened_cons {state : State} {frame : Frame} {frames : List Frame}
    (same : state.frames = frame :: frames) :
    state.opened = { state with frames }.opened ++ frame.directives := by
  rw [opened, opened, same, List.reverse_cons, List.flatMap_append, List.flatMap_singleton]

/-- A state that is settled under the directives of its frames is coherent. -/
theorem Settled.coherent {state : State} {opened : List Directive} (settled : state.Settled opened)
    (same : state.opened = opened) : state.Coherent := by
  rw [Coherent, same]
  exact settled

section

variable {source : Text} {state : State}

/-- What leaves the frames as they are and settles the state keeps it coherent. -/
theorem coherent_of_keeps {outcome : Except Stop State} {opened : List Directive}
    (safe : Safe outcome (·.Settled opened))
    (kept : ∀ next, outcome = .ok next → state.Keeps next) (same : state.opened = opened) :
    Safe outcome Coherent where
  effect next success := (safe.effect next success).coherent (by
    rw [State.opened, (kept next success).frames]
    exact same)
  located := safe.located

/-- A line is stepped over safely. -/
theorem Coherent.step_safe (coherent : state.Coherent) {line : Line} (formed : line.Formed)
    (sliced : line.Sliced source) (isLast : Bool) : Safe (state.step source line isLast) Coherent := by
  rw [step]
  split
  · exact coherent_of_keeps (coherent.addBlank_safe line isLast) (fun _ => addBlank_keeps) rfl
  · exact coherent_of_keeps (coherent.addText_safe formed isLast) (fun _ => addText_keeps) rfl
  · have settled := coherent.withFrames (⟨line.number, line.indentation, []⟩ :: state.frames)
    refine coherent_of_keeps (settled.addText_safe formed isLast) (fun _ => addText_keeps) ?_
    exact (opened_cons rfl).trans (List.append_nil _)
  · next start tokens kind =>
      obtain ⟨terminated, behind⟩ := sliced.tokens start tokens kind
      refine (Directive.parse_safe line.number line.start terminated fun token member =>
        (behind token member).1).bind fun directives _ => ?_
      refine (coherent.checkIndentation_safe line).bind fun _ fits => ?_
      have entered := coherent.enterAll_safe fits directives
      refine (Safe.mk (fun next success => And.intro success (entered.effect next success))
        entered.located).bind ?_
      rintro next ⟨success, settled⟩
      refine .of_ok rfl ((settled.withFrames _).coherent ?_)
      rw [opened_cons rfl]
      change next.opened ++ directives = _
      rw [opened, opened, (enterAll_keeps success).frames]
  · next kind =>
      split
      · exact .of_error rfl rfl
      · next frame frames same =>
          have settled : { state with frames }.Settled
              ({ state with frames }.opened ++ frame.directives) := by
            rw [← opened_cons same]
            exact coherent.withFrames frames
          split
          · next none =>
              rw [List.isEmpty_iff.1 none, List.append_nil] at settled
              exact coherent_of_keeps (settled.addText_safe formed isLast) (fun _ => addText_keeps) rfl
          · refine (settled.checkIndentation_safe line).bind fun _ _ => ?_
            obtain ⟨next, exited, settledNext⟩ := settled.exitAll_ok source
            refine .of_ok exited (settledNext.coherent ?_)
            rw [opened, (exitAll_keeps exited).frames]
            rfl

/-- A walk over some lines is safe. -/
theorem Coherent.walk_safe (coherent : state.Coherent) {lines : List Line}
    (formed : ∀ line ∈ lines, line.Formed ∧ line.Sliced source) :
    Safe (state.walk source lines) Coherent := by
  induction lines generalizing state with
  | nil => exact .of_ok rfl coherent
  | cons line rest ih =>
      obtain ⟨⟨formedLine, sliced⟩, others⟩ := List.forall_mem_cons.1 formed
      exact (coherent.step_safe formedLine sliced rest.isEmpty).bind fun next after => ih after others

/-- What each line preserves of a coherent state is preserved by a run. -/
theorem Coherent.run_invariant {invariant : State → Prop} {atEnd : Bool} {final : State} {lines : List Line}
    (coherent : state.Coherent) (start : invariant state)
    (formed : ∀ line ∈ lines, line.Formed ∧ line.Sliced source)
    (preserved : ∀ {line isLast} {before after : State}, before.Coherent → invariant before → line.Formed →
      before.step source line isLast = .ok after → invariant after)
    (success : state.run source atEnd lines = .ok final) : final.Coherent ∧ invariant final := by
  refine State.run_invariant (fun state => state.Coherent ∧ invariant state) ?_ ⟨coherent, start⟩ success
  intro line member isLast before after ⟨coherent, holds⟩ stepped
  obtain ⟨formedLine, sliced⟩ := formed line member
  exact ⟨(coherent.step_safe formedLine sliced isLast).effect after stepped,
    preserved coherent holds formedLine stepped⟩

/-- At the end of the text a state finishes, or a region is never closed. -/
theorem finish_safe (state : State) : Safe state.finish fun final => final.frames = [] := by
  unfold finish
  split
  · next none => exact .of_ok rfl none
  · exact .of_error rfl rfl

end

end Stencil.Assembly.State
