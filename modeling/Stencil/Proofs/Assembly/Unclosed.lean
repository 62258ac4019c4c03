/-
This file shows that the frames after some lines are those of the regions that the lines leave open, and that these
regions can be closed one after another, whatever the lines were.
-/
import Stencil.Proofs.Assembly.Atop
import Stencil.Proofs.Assembly.Blame
import Stencil.Proofs.Assembly.Coherent
import Stencil.Proofs.Assembly.Stops
import Stencil.Proofs.Outline.LeftOpen

namespace Stencil

/-- The frame of a line that opens a region. -/
def Line.frame (line : Line) : Assembly.Frame := ⟨line.number, line.indentation, line.directives⟩

/-- The frame has a directive that defines a template. -/
def Assembly.Frame.Defines (frame : Assembly.Frame) : Prop := ∃ directive ∈ frame.directives, directive.isDefine = true

/-- The line has a directive that defines a template. -/
def Line.Defines (line : Line) : Prop := line.frame.Defines

namespace Assembly.State

section

variable {source : Text} {state next : State} {line : Line} {isLast atEnd : Bool} {lines before opened : List Line}

/-- A line adds its own frame, takes the innermost one away, or leaves the frames as they are. -/
theorem step_leavesOpen (leaves : Line.LeavesOpen before opened) (framed : state.frames = opened.map Line.frame)
    (success : state.step source line isLast = .ok next) :
    ∃ still, Line.LeavesOpen (before ++ [line]) still ∧ next.frames = still.map Line.frame := by
  rcases step_frames success with ⟨directives, opens, deeper⟩ | ⟨closes, frame, higher⟩ | ⟨between, level⟩
  · refine ⟨line :: opened, leaves.opening opens.opens, ?_⟩
    rw [deeper, framed, List.map_cons, Line.frame, opens.directives_eq]
  · rw [framed] at higher
    cases opened with
    | nil => cases higher
    | cons innermost outer => exact ⟨outer, leaves.closing closes, (List.cons.inj higher).2.symm⟩
  · exact ⟨opened, leaves.plain between, level.trans framed⟩

/-- The frames after some lines are those of the regions that the lines leave open. -/
theorem run_leavesOpen (leaves : Line.LeavesOpen before opened) (framed : state.frames = opened.map Line.frame)
    (success : state.run source atEnd lines = .ok next) :
    ∃ still, Line.LeavesOpen (before ++ lines) still ∧ next.frames = still.map Line.frame := by
  induction lines generalizing state before opened with
  | nil =>
      cases success
      exact ⟨opened, (List.append_nil before).symm ▸ leaves, framed⟩
  | cons line rest ih =>
      obtain ⟨middle, stepped, others⟩ := bind_ok success
      obtain ⟨still, here, framedMiddle⟩ := step_leavesOpen leaves framed stepped
      have later := ih here framedMiddle others
      rwa [List.append_assoc] at later

/-- Lines do not change how the text is loaded. -/
theorem run_mode (success : state.run source atEnd lines = .ok next) : next.mode = state.mode := by
  refine run_invariant (fun reached => reached.mode = state.mode) (fun line _ isLast before after same stepped => ?_)
    rfl success
  exact (step_mode stepped).trans same

/-- No line is refused because a region is never closed. -/
theorem run_explained (source : Text) (state : State) (atEnd : Bool) (lines : List Line) :
    Explained (state.run source atEnd lines) fun error => ∀ place, error ≠ .structural place .neverClosed := by
  induction lines generalizing state with
  | nil => exact .of_ok rfl
  | cons line rest ih =>
      refine Explained.bind ?_ fun next _ => ih next
      exact fun error failure => (step_explained source state line _ error failure).closed

/-- The next state has no body, or a body over the same base. -/
def KeepsBase (state next : State) : Prop :=
  ∀ grown, next.body? = some grown → ∃ body, state.body? = some body ∧ grown.base = body.base

theorem KeepsBase.refl (state : State) : state.KeepsBase state := fun grown same => ⟨grown, same, rfl⟩

theorem KeepsBase.trans {middle : State} (first : state.KeepsBase middle) (second : middle.KeepsBase next) :
    state.KeepsBase next := by
  intro grown after
  obtain ⟨between, within, same⟩ := second grown after
  obtain ⟨body, hasBody, also⟩ := first between within
  exact ⟨body, hasBody, same.trans also⟩

theorem exit_keepsBase {directive : Directive} (success : state.exit source directive = .ok next) :
    state.KeepsBase next := by
  intro grown after
  cases exit_ok success with
  | define => cases after
  | replace _ _ hasBody | foreach _ hasBody | insert _ hasBody =>
      cases after
      exact ⟨_, hasBody, rfl⟩

theorem exitAll_keepsBase {directives : List Directive} (success : state.exitAll source directives = .ok next) :
    state.KeepsBase next := by
  induction directives generalizing state with
  | nil =>
      cases success
      exact .refl _
  | cons directive rest ih =>
      obtain ⟨middle, _, exited, others⟩ := exitAll_cons_ok success
      have first := exit_keepsBase exited
      exact KeepsBase.trans first (ih others)

section

variable {directives : List Directive} (settled : state.Settled directives)

include settled

theorem Settled.addBlank_keepsBase (success : state.addBlank line isLast = .ok next) : state.KeepsBase next := by
  cases settled with
  | outside outside _ =>
      cases (outside.addBlank_eq line isLast).symm.trans success
      exact .refl _
  | inside stands =>
      obtain ⟨grown, rfl, _, growth⟩ := (stands.inside.addBlank_decided line isLast).effect_of_ok success
      rintro _ ⟨⟩
      exact ⟨_, stands.hasBody, growth.base⟩

theorem Settled.addText_keepsBase (formed : line.Formed) (success : state.addText line isLast = .ok next) :
    state.KeepsBase next := by
  cases settled with
  | outside outside _ =>
      cases (outside.addText_eq line isLast).symm.trans success
      exact .refl _
  | inside stands =>
      obtain ⟨grown, rfl, _, growth⟩ := (stands.inside.addText_decided formed isLast).effect_of_ok success
      rintro _ ⟨⟩
      exact ⟨_, stands.hasBody, growth.base⟩

/-- A line of text can be added if it does not stand left of the base. -/
theorem Settled.addText_ok (formed : line.Formed)
    (fits : ∀ body, state.body? = some body → body.base ≤ line.indentation) (isLast : Bool) :
    ∃ next, state.addText line isLast = .ok next := by
  cases settled with
  | outside outside _ => exact ⟨state, outside.addText_eq line isLast⟩
  | inside stands =>
      obtain ⟨next, success, _⟩ :=
        (stands.inside.addText_decided formed isLast).succeeds fun _ => fits _ stands.hasBody
      exact ⟨next, success⟩

theorem Settled.checkIndentation_ok (fits : ∀ body, state.body? = some body → body.base ≤ line.indentation) :
    state.checkIndentation line = .ok () := by
  cases settled with
  | outside outside _ => exact outside.checkIndentation_eq line
  | inside stands =>
      obtain ⟨_, success, _⟩ := (stands.inside.checkIndentation_decided line).succeeds (fits _ stands.hasBody)
      exact success

end

/-- The body of a text that is one template has no base, and all open definitions stand at the base of their body. -/
structure Based (state : State) : Prop where
  single : state.mode = .single → ∀ body, state.body? = some body → body.base = 0
  defined : ∀ body, state.body? = some body → ∀ frame ∈ state.frames, frame.Defines → frame.column = body.base

theorem KeepsBase.based (keeps : state.KeepsBase next) (based : state.Based) (mode : next.mode = state.mode)
    (known : ∀ frame ∈ next.frames, frame.Defines → frame ∈ state.frames) : next.Based := by
  constructor
  · intro isSingle grown after
    obtain ⟨body, hasBody, same⟩ := keeps grown after
    rw [same]
    exact based.single (mode.symm.trans isSingle) body hasBody
  · intro grown after frame member defines
    obtain ⟨body, hasBody, same⟩ := keeps grown after
    rw [same]
    exact based.defined body hasBody frame (known frame member defines) defines

/-- Without a body no directive is open. -/
theorem Coherent.opened_eq_nil (coherent : state.Coherent) (noBody : state.body? = none) : state.opened = [] := by
  cases coherent with
  | outside _ none => exact none
  | inside stands => cases noBody.symm.trans stands.hasBody

/-- While no directive is open, no frame defines a template. -/
theorem not_defines_of_opened (none : state.opened = []) {frame : Frame} (member : frame ∈ state.frames) :
    ¬frame.Defines := by
  rintro ⟨directive, among, _⟩
  have inside : directive ∈ state.opened := List.mem_flatMap.2 ⟨frame, List.mem_reverse.2 member, among⟩
  rw [none] at inside
  cases inside

/-- Inside a body a line opens no definition, and the base stays. -/
theorem Inside.enterAll_base {mode : Mode} {body : Body} {directives around : List Directive} {indices : List Nat}
    (inside : state.Inside mode body around indices) (fits : body.base ≤ line.indentation)
    (success : state.enterAll line directives = .ok next) :
    (∃ grown, next.body? = some grown ∧ grown.base = body.base) ∧
      ∀ directive ∈ directives, directive.isDefine = false := by
  have decided := inside.enterAll_decided [] fits directives
  obtain ⟨grown, inner, insideNext, growth, _⟩ := decided.effect_of_ok success
  refine ⟨⟨grown, insideNext.hasBody, growth.base⟩, fun directive member => ?_⟩
  obtain ⟨earlier, later, same⟩ := List.append_of_mem member
  have admitted := decided.holds next success earlier directive later same
  refine Bool.eq_false_iff.2 fun defines => ?_
  obtain ⟨multiple, none⟩ := admitted.defines.1 defines
  exact inside.defined multiple (List.append_eq_nil_iff.1 none).1

/-- A definition that a line opens has the indentation of the line as its base. -/
theorem Coherent.enterAll_based (coherent : state.Coherent) (based : state.Based)
    (fits : ∀ body, state.body? = some body → body.base ≤ line.indentation) {directives : List Directive}
    (success : state.enterAll line directives = .ok next) : (next.pushFrame line directives).Based := by
  obtain ⟨mode, frames⟩ := enterAll_keeps success
  cases coherent with
  | inside stands =>
      obtain ⟨⟨last, hasBody, base⟩, none⟩ := stands.inside.enterAll_base (fits _ stands.hasBody) success
      have keeps : state.KeepsBase (next.pushFrame line directives) := by
        intro grown after
        cases hasBody.symm.trans after
        exact ⟨_, stands.hasBody, base⟩
      refine keeps.based based mode fun frame member defines => ?_
      rcases List.mem_cons.1 member with rfl | earlier
      · obtain ⟨directive, among, define⟩ := defines
        cases (none directive among).symm.trans define
      · exact frames ▸ earlier
  | outside outside none =>
      refine ⟨fun isSingle => ?_, fun grown after frame member defines => ?_⟩
      · cases outside.hasMode.symm.trans (mode.symm.trans isSingle)
      rcases List.mem_cons.1 member with rfl | earlier
      · cases directives with
        | nil => obtain ⟨_, ⟨⟩, _⟩ := defines
        | cons directive rest =>
            obtain ⟨middle, entered, others⟩ := bind_ok success
            obtain ⟨name, instruction, _, rfl⟩ := (outside.enter_decided line directive).effect_of_ok entered
            obtain ⟨⟨last, hasBody, base⟩, _⟩ :=
              (outside.inside instruction line.indentation).enterAll_base (Nat.le_refl _) others
            cases hasBody.symm.trans after
            exact base.symm
      · exact absurd defines (not_defines_of_opened none (frames ▸ earlier))

/-- Behind a line all open definitions still stand at the base of the body. -/
theorem Coherent.step_based (coherent : state.Coherent) (based : state.Based) (formed : line.Formed)
    (success : state.step source line isLast = .ok next) : next.Based := by
  have mode := step_mode success
  have closed {frame : Frame} {frames : List Frame} (held : state.frames = frame :: frames)
      (keeps : state.KeepsBase next) (left : next.frames = frames) : next.Based :=
    keeps.based based mode fun other member _ => held ▸ .tail _ (left ▸ member)
  cases step_ok success with
  | empty _ added =>
      have frames := (addBlank_keeps added).frames
      exact (coherent.addBlank_keepsBase added).based based mode fun frame member _ => frames ▸ member
  | regular _ added =>
      have frames := (addText_keeps added).frames
      exact (coherent.addText_keepsBase formed added).based based mode fun frame member _ => frames ▸ member
  | opening _ added =>
      have settled := coherent.withFrames (⟨line.number, line.indentation, []⟩ :: state.frames)
      have keeps : state.KeepsBase next := settled.addText_keepsBase formed added
      refine keeps.based based mode fun frame member defines => ?_
      rw [(addText_keeps added).frames] at member
      rcases List.mem_cons.1 member with rfl | earlier
      · obtain ⟨_, ⟨⟩, _⟩ := defines
      · exact earlier
  | directives _ _ checked opened =>
      have fits := (coherent.checkIndentation_safe line).effect _ checked
      exact coherent.enterAll_based based fits opened
  | @plainEnd _ _ frames _ held _ added =>
      have keeps : state.KeepsBase next := (coherent.withFrames frames).addText_keepsBase formed added
      exact closed held keeps (addText_keeps added).frames
  | closing _ held _ _ exited =>
      have keeps := exitAll_keepsBase exited
      exact closed held keeps (exitAll_keeps exited).frames

/-- Behind some lines a state is coherent, and all open definitions stand at the base of the body. -/
theorem Coherent.run_based (coherent : state.Coherent) (based : state.Based)
    (formed : ∀ line ∈ lines, line.Formed ∧ line.Sliced source) (success : state.run source atEnd lines = .ok next) :
    next.Coherent ∧ next.Based :=
  coherent.run_invariant based formed Coherent.step_based success

/-- The innermost region can be closed by a line that does not stand left of the base. -/
theorem Coherent.close (coherent : state.Coherent) {frame : Frame} {frames : List Frame}
    (same : state.frames = frame :: frames) (closes : line.closes = true) (formed : line.Formed)
    (sliced : line.Sliced source) (fits : ∀ body, state.body? = some body → body.base ≤ line.indentation)
    (isLast : Bool) :
    ∃ next, state.step source line isLast = .ok next ∧ next.Coherent ∧ next.frames = frames ∧
      state.KeepsBase next := by
  have settled : { state with frames }.Settled ({ state with frames }.opened ++ frame.directives) := by
    rw [← opened_cons same]
    exact coherent.withFrames frames
  obtain ⟨next, success, keeps⟩ : ∃ next, state.step source line isLast = .ok next ∧ state.KeepsBase next := by
    rw [step_closing closes same]
    split
    · obtain ⟨next, added⟩ := settled.addText_ok formed fits isLast
      exact ⟨next, added, settled.addText_keepsBase formed added⟩
    · obtain ⟨next, exited, _⟩ := settled.exitAll_ok source
      have keeps := exitAll_keepsBase exited
      exact ⟨next, bind_of_ok (settled.checkIndentation_ok fits) exited, keeps⟩
  refine ⟨next, success, (coherent.step_safe formed sliced isLast).effect next success, ?_, keeps⟩
  rcases step_frames success with ⟨_, opens, _⟩ | ⟨_, other, higher⟩ | ⟨between, _⟩
  · cases closes.symm.trans (Line.not_closes_of_opens opens.opens)
  · exact (List.cons.inj (same.symm.trans higher)).2.symm
  · cases closes.symm.trans between.2

/-- All regions can be closed one after another by lines that do not stand left of the base. -/
theorem Coherent.closeAll (coherent : state.Coherent) (count : state.frames.length = lines.length)
    (closing : ∀ line ∈ lines, line.closes = true ∧ line.Formed ∧ line.Sliced source ∧
      ∀ body, state.body? = some body → body.base ≤ line.indentation) (atEnd : Bool) :
    ∃ final, state.run source atEnd lines = .ok final ∧ final.frames = [] := by
  induction lines generalizing state with
  | nil => exact ⟨state, rfl, List.length_eq_zero_iff.1 count⟩
  | cons line rest ih =>
      obtain ⟨⟨closes, formed, sliced, fits⟩, others⟩ := List.forall_mem_cons.1 closing
      obtain ⟨frame, frames, same⟩ := List.exists_cons_of_length_eq_add_one count
      obtain ⟨next, success, coherentNext, left, keeps⟩ :=
        coherent.close same closes formed sliced fits (atEnd && rest.isEmpty)
      have fewer : next.frames.length = rest.length := by
        rw [same, List.length_cons, List.length_cons] at count
        rw [left]
        exact Nat.succ.inj count
      obtain ⟨final, ran, none⟩ := ih coherentNext fewer fun other member => by
        obtain ⟨closes, formed, sliced, fits⟩ := others other member
        refine ⟨closes, formed, sliced, fun grown after => ?_⟩
        obtain ⟨body, hasBody, base⟩ := keeps grown after
        rw [base]
        exact fits body hasBody
      exact ⟨final, bind_of_ok success ran, none⟩

end

end Assembly.State

end Stencil
