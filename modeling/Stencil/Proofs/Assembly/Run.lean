/-
This file splits the walk over the lines of a text, and shows that a walk that closes all regions has read
balanced lines.
-/
import Stencil.Proofs.Assembly.Step
import Stencil.Proofs.Line.Formed
import Stencil.Proofs.Outline.Basic

namespace Stencil.Assembly.State

/-- The state after some lines, which may stand at the end of the text. -/
def run (source : Text) (atEnd : Bool) (state : State) : List Line → Except Stop State
  | [] => .ok state
  | line :: rest => do
      let state ← state.step source line (atEnd && rest.isEmpty)
      run source atEnd state rest

theorem walk_eq_run (source : Text) (state : State) (lines : List Line) :
    state.walk source lines = state.run source true lines := by
  induction lines generalizing state with
  | nil => rfl
  | cons line rest ih => simp only [walk, run, ih, Bool.true_and]

/-- A run over two parts is a run over the first and then over the second. -/
theorem run_append (source : Text) (atEnd : Bool) (state : State) (first second : List Line) :
    state.run source atEnd (first ++ second) =
      state.run source (atEnd && second.isEmpty) first >>= fun next => next.run source atEnd second := by
  induction first generalizing state with
  | nil => rfl
  | cons line rest ih =>
      have last : (atEnd && (rest ++ second).isEmpty) = ((atEnd && second.isEmpty) && rest.isEmpty) := by
        cases rest <;> cases second <;> simp
      simp only [List.cons_append, run, ih, last, bind_assoc]

/-- What each of some lines preserves is preserved by a run over them. -/
theorem run_invariant {source : Text} {atEnd : Bool} (invariant : State → Prop) {state final : State}
    {lines : List Line} (preserved : ∀ line ∈ lines, ∀ isLast before after, invariant before →
      before.step source line isLast = .ok after → invariant after)
    (start : invariant state) (success : state.run source atEnd lines = .ok final) : invariant final := by
  induction lines generalizing state with
  | nil =>
      cases success
      exact start
  | cons line rest ih =>
      obtain ⟨here, later⟩ := List.forall_mem_cons.1 preserved
      obtain ⟨middle, stepped, others⟩ := bind_ok success
      exact ih later (here _ state middle start stepped) others

/-- Two states agree on how the text is loaded and on the frames that are open. -/
structure Keeps (state next : State) : Prop where
  mode : next.mode = state.mode
  frames : next.frames = state.frames

theorem Keeps.trans {state middle next : State} (first : state.Keeps middle)
    (second : middle.Keeps next) : state.Keeps next :=
  ⟨second.mode.trans first.mode, second.frames.trans first.frames⟩

theorem addBlank_keeps {state next : State} {line : Line} {isLast : Bool}
    (success : state.addBlank line isLast = .ok next) : state.Keeps next := by
  obtain ⟨_, rfl⟩ | ⟨_, _, _, _, _, rfl⟩ := addBlank_ok success
  · exact ⟨rfl, rfl⟩
  · exact ⟨rfl, rfl⟩

theorem addText_keeps {state next : State} {line : Line} {isLast : Bool}
    (success : state.addText line isLast = .ok next) : state.Keeps next := by
  obtain ⟨_, rfl⟩ | ⟨_, _, _, _, _, _, _, _, rfl⟩ := addText_ok success
  · exact ⟨rfl, rfl⟩
  · exact ⟨rfl, rfl⟩

theorem enter_keeps {state next : State} {line : Line} {directive : Directive}
    (success : state.enter line directive = .ok next) : state.Keeps next := by
  cases enter_ok success <;> exact ⟨rfl, rfl⟩

theorem enterAll_keeps {state next : State} {line : Line} {directives : List Directive}
    (success : state.enterAll line directives = .ok next) : state.Keeps next := by
  induction directives generalizing state with
  | nil =>
      cases success
      exact ⟨rfl, rfl⟩
  | cons directive rest ih =>
      obtain ⟨middle, entered, others⟩ := bind_ok success
      have later := ih others
      exact (enter_keeps entered).trans ⟨later.mode, later.frames⟩

theorem exit_keeps {source : Text} {state next : State} {directive : Directive}
    (success : state.exit source directive = .ok next) : state.Keeps next := by
  cases exit_ok success <;> exact ⟨rfl, rfl⟩

theorem exitAll_keeps {source : Text} {state next : State} {directives : List Directive}
    (success : state.exitAll source directives = .ok next) : state.Keeps next := by
  induction directives generalizing state with
  | nil =>
      cases success
      exact ⟨rfl, rfl⟩
  | cons directive rest ih =>
      obtain ⟨middle, _, exited, others⟩ := exitAll_cons_ok success
      have first := exit_keeps exited
      exact Keeps.trans ⟨first.mode, first.frames⟩ (ih others)

/-- A line that opens a region adds its frame, and a line that closes one takes the innermost frame away. -/
theorem step_frames {source : Text} {state next : State} {line : Line} {isLast : Bool}
    (success : state.step source line isLast = .ok next) :
    (∃ directives, line.Opens directives ∧
        next.frames = ⟨line.number, line.indentation, directives⟩ :: state.frames) ∨
      (line.closes = true ∧ ∃ frame, state.frames = frame :: next.frames) ∨
        (line.opens = false ∧ line.closes = false) ∧ next.frames = state.frames := by
  cases step_ok success with
  | empty kind added =>
      exact .inr (.inr ⟨by simp [Line.opens, Line.closes, kind], (addBlank_keeps added).frames⟩)
  | regular kind added =>
      exact .inr (.inr ⟨by simp [Line.opens, Line.closes, kind], (addText_keeps added).frames⟩)
  | opening kind added => exact .inl ⟨[], .plain kind, (addText_keeps added).frames⟩
  | directives kind parsed _ opened =>
      refine .inl ⟨_, .directed kind parsed, ?_⟩
      rw [← (enterAll_keeps opened).frames]
      rfl
  | @plainEnd _ frame _ kind held _ added =>
      refine .inr (.inl ⟨by simp [Line.closes, kind], frame, ?_⟩)
      rw [held, (addText_keeps added).frames]
  | @closing _ frame _ kind held _ _ exited =>
      refine .inr (.inl ⟨by simp [Line.closes, kind], frame, ?_⟩)
      rw [held, (exitAll_keeps exited).frames]

/-- A closing line takes the innermost frame away. -/
theorem step_closing {source : Text} {state : State} {line : Line} {isLast : Bool} {frame : Frame}
    {frames : List Frame} (closes : line.closes = true) (same : state.frames = frame :: frames) :
    state.step source line isLast =
      if frame.directives.isEmpty then { state with frames }.addText line isLast
      else
        { state with frames }.checkIndentation line >>= fun _ =>
          { state with frames }.exitAll source frame.directives.reverse := by
  rw [step, Line.closes_iff.1 closes]
  dsimp only
  rw [same]

/-- A line does not change how the text is loaded. -/
theorem step_mode {source : Text} {state next : State} {line : Line} {isLast : Bool}
    (success : state.step source line isLast = .ok next) : next.mode = state.mode := by
  cases step_ok success with
  | empty _ added => exact (addBlank_keeps added).mode
  | regular _ added => exact (addText_keeps added).mode
  | opening _ added => exact (addText_keeps added).mode
  | directives _ _ _ opened => exact (enterAll_keeps opened).mode
  | plainEnd _ _ _ added => exact (addText_keeps added).mode
  | closing _ _ _ _ exited => exact (exitAll_keeps exited).mode

/-- Lines after which no frame is left are balanced over the frames before them, and their directives
are well formed. -/
theorem run_balanced {source : Text} {atEnd : Bool} {state final : State} {lines : List Line}
    (success : state.run source atEnd lines = .ok final) (closed : final.frames = []) :
    Line.Balanced state.frames.length lines ∧ Line.Parsed lines := by
  induction lines generalizing state with
  | nil =>
      cases success
      rw [Line.balanced_nil, closed]
      exact ⟨rfl, Line.parsed_nil⟩
  | cons line rest ih =>
      obtain ⟨next, stepped, others⟩ := bind_ok success
      obtain ⟨balanced, parsed⟩ := ih others
      rcases step_frames stepped with ⟨directives, opening, deeper⟩ | ⟨closes, frame, higher⟩ | ⟨between, level⟩
      · rw [deeper, List.length_cons] at balanced
        exact ⟨(Line.balanced_cons_opening opening.opens).2 balanced,
          Line.parsed_cons.2 ⟨fun _ => ⟨directives, opening⟩, parsed⟩⟩
      · exact ⟨(Line.balanced_cons_closing closes).2 ⟨_, congrArg List.length higher, balanced⟩,
          (Line.parsed_cons_of_not_opens (Line.not_opens_of_closes closes)).2 parsed⟩
      · rw [level] at balanced
        exact ⟨(Line.balanced_cons_plain between).2 balanced,
          (Line.parsed_cons_of_not_opens between.1).2 parsed⟩

end Stencil.Assembly.State
