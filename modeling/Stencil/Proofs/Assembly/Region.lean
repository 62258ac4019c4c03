/-
This file runs over the lines of an outline inside a body: they are accepted exactly if they are admitted
in their places, and they add their pieces and marks.
-/
import Stencil.Proofs.Assembly.Enter
import Stencil.Proofs.Assembly.Run

namespace Stencil.Assembly.State

/-- A run over a region takes its opening line, the lines inside it and its closing line. -/
theorem run_region (source : Text) (atEnd : Bool) (state : State) {opening closing : Line}
    {directives : List Directive} (opens : opening.Opens directives) (closes : closing.closes = true)
    (inside rest : Outline) :
    state.run source atEnd (Outline.region opening directives opens inside closing closes rest).lines =
      state.step source opening false >>= fun entered =>
        entered.run source false inside.lines >>= fun left =>
          left.step source closing (atEnd && rest.isDone) >>= fun next =>
            next.run source atEnd rest.lines := by
  have more : (inside.lines ++ closing :: rest.lines).isEmpty = false := by simp
  rw [Outline.lines_region, run]
  simp only [run_append, run, rest.isDone_iff, more, List.isEmpty_cons, Bool.and_false]

section

variable {state next : State} {mode : Mode} {body grown : Body} {opened : List Directive}
  {indices : List Nat}

/-- A line of text without directives adds its pieces exactly if it is admitted. -/
theorem Inside.addText_placed (inside : state.Inside mode body opened indices) {line : Line}
    (formed : line.Formed) (isText : line.isText = true) (isLast : Bool) :
    Decided (state.addText line isLast) (Placed.Admitted mode body.base ⟨line, opened, [], isLast⟩)
      (state.Adds body indices (Placed.pieces body.base ⟨line, opened, [], isLast⟩) []) := by
  have pieces : Placed.pieces body.base ⟨line, opened, [], isLast⟩ =
      if opened.any Directive.isInsert then []
      else line.pieces (opened.filterMap Directive.pattern?) body.base isLast := by
    rw [Placed.pieces, if_neg (Line.ne_empty_of_isText isText), Placed.isKept_nil isText]
    cases opened.any Directive.isInsert <;> rfl
  rw [pieces]
  refine (inside.addText_decided formed isLast).congr ⟨fun admitted none => ?_, fun fits => ?_⟩
  · exact admitted.indented (by rw [Placed.isChecked_nil isText, none]; rfl)
  · refine ⟨fun checked => fits ?_, fun _ => Directive.allAdmitted_nil _ _⟩
    rw [Placed.isChecked_nil isText] at checked
    simpa using checked

/-- A line between regions adds its pieces if it is admitted. -/
theorem Inside.step_plain_decided (inside : state.Inside mode body opened indices) (source : Text)
    {line : Line} (formed : line.Formed) (between : line.opens = false ∧ line.closes = false)
    (isLast : Bool) :
    Decided (state.step source line isLast) (Placed.Admitted mode body.base ⟨line, opened, [], isLast⟩)
      (state.Adds body indices (Placed.pieces body.base ⟨line, opened, [], isLast⟩)
        (Placed.marks body.base ⟨line, opened, [], isLast⟩)) := by
  rw [Placed.marks_nil]
  cases kind : line.kind with
  | empty =>
      have condition : Placed.Admitted mode body.base ⟨line, opened, [], isLast⟩ ↔ True :=
        iff_true_intro ⟨by simp [Placed.isChecked, kind], fun _ => Directive.allAdmitted_nil _ _⟩
      rw [condition, Placed.pieces, if_pos kind, step, kind]
      exact inside.addBlank_decided line isLast
  | regular =>
      rw [step, kind]
      exact inside.addText_placed formed (by rw [Line.isText, kind]) isLast
  | opening | directives | closing => simp [Line.opens, Line.closes, kind] at between

/-- A line has opened a region in a body. A line that closes the region is accepted exactly if it is
admitted, and leads back to the state before, with the body of that time grown by the line. -/
def Entered (source : Text) (state : State) (mode : Mode) (body : Body) (opened : List Directive)
    (indices : List Nat) (directives : List Directive) (pieces : List Piece) (marks : List Mark)
    (next : State) : Prop :=
  ∃ grown inner, next.Inside mode grown (opened ++ directives) inner ∧
    body.Grows grown pieces marks ∧
    ∀ (last : Body) (more : List Piece) (others : List Mark) (closing : Line) (isLast : Bool),
      grown.Grows last more others → last.Sound inner → closing.closes = true → closing.Formed →
      Decided ((next.withBody last).step source closing isLast)
        (Placed.Admitted mode body.base ⟨closing, opened, directives, isLast⟩)
        (state.Adds last indices (Placed.pieces body.base ⟨closing, opened, directives, isLast⟩)
          (Placed.marks body.base ⟨closing, opened, directives, isLast⟩))

/-- A line that closes a region without directives adds its pieces if it is admitted. -/
theorem Inside.step_plain_closing_decided (inside : state.Inside mode body opened indices)
    (source : Text) {frame : Frame} (none : frame.directives = []) {line : Line} (formed : line.Formed)
    (closes : line.closes = true) (isLast : Bool) :
    Decided ({ state with frames := frame :: state.frames }.step source line isLast)
      (Placed.Admitted mode body.base ⟨line, opened, [], isLast⟩)
      (state.Adds body indices (Placed.pieces body.base ⟨line, opened, [], isLast⟩)
        (Placed.marks body.base ⟨line, opened, [], isLast⟩)) := by
  rw [step_closing closes rfl, none, List.isEmpty_nil, if_pos rfl, Placed.marks_nil]
  exact inside.addText_placed formed (Line.isText_of_closes closes) isLast

/-- A line that closes a region with directives closes these unless it stands left of the base. -/
theorem Inside.step_directed_closing_decided (inside : state.Inside mode body opened indices)
    {source : Text} (frame : Frame) (nonempty : frame.directives ≠ [])
    (exited : state.exitAll source frame.directives.reverse = .ok next) {line : Line}
    (closes : line.closes = true) (isLast : Bool) :
    Decided ({ state with frames := frame :: state.frames }.step source line isLast)
      (body.base ≤ line.indentation) (· = next) := by
  rw [step_closing closes rfl, if_neg (by simpa using nonempty)]
  apply (inside.checkIndentation_decided line).followed
  intro _ _
  exact ⟨next, exited, rfl⟩

/-- A line without directive text opens a region if it is admitted. -/
theorem Inside.step_plain_opening_decided (inside : state.Inside mode body opened indices)
    (source : Text) {line : Line} (formed : line.Formed) (kind : line.kind = .opening) :
    Decided (state.step source line false) (Placed.Admitted mode body.base ⟨line, opened, [], false⟩)
      (Entered source state mode body opened indices []
        (Placed.pieces body.base ⟨line, opened, [], false⟩)
        (Placed.marks body.base ⟨line, opened, [], false⟩)) := by
  rw [step, kind, Placed.marks_nil]
  apply ((inside.withFrames _).addText_placed formed (by rw [Line.isText, kind]) false).weaken
  rintro next ⟨grown, rfl, sound, growth⟩
  refine ⟨grown, indices, ?_, growth,
    fun last more others closing isLast later soundLast closes formed => ?_⟩
  · rw [List.append_nil]
    exact (inside.withFrames _).grow sound growth
  · have base := (growth.trans later).base
    rw [← base]
    exact (inside.grow soundLast (growth.trans later)).step_plain_closing_decided source rfl formed
      closes isLast

/-- A line with directive text opens its directives if it is admitted. -/
theorem Inside.step_directed_opening_decided (inside : state.Inside mode body opened indices)
    (source : Text) {line : Line} {start : Nat} {tokens : List Token} {directives : List Directive}
    (kind : line.kind = .directives start tokens)
    (parsed : Directive.parse line.number line.start tokens = .ok directives) :
    Decided (state.step source line false)
      (Placed.Admitted mode body.base ⟨line, opened, directives, false⟩)
      (Entered source state mode body opened indices directives
        (Placed.pieces body.base ⟨line, opened, directives, false⟩)
        (Placed.marks body.base ⟨line, opened, directives, false⟩)) := by
  have opens : line.opens = true := by rw [Line.opens, kind]
  have condition : Placed.Admitted mode body.base ⟨line, opened, directives, false⟩ ↔
      body.base ≤ line.indentation ∧ Directive.AllAdmitted mode opened directives := by
    constructor
    · intro admitted
      exact ⟨admitted.indented (by rw [Placed.isChecked, kind]), admitted.directives opens⟩
    · rintro ⟨fits, admitted⟩
      exact ⟨fun _ => fits, fun _ => admitted⟩
  have pieces : Placed.pieces body.base ⟨line, opened, directives, false⟩ = [] :=
    Placed.pieces_dropped (by simp [kind]) (Placed.isKept_directives kind false) _
  rw [condition, pieces, Placed.marks_opening opens, step, kind]
  dsimp only
  rw [parsed]
  refine (inside.checkIndentation_decided line).bind fun _ fits =>
    (inside.enterAll_decided source fits directives).followed ?_
  rintro entered ⟨grown, inner, insideEntered, growth, exits⟩
  refine ⟨_, rfl, grown, inner, insideEntered.withFrames _, growth,
    fun last more others closing isLast later soundLast closes formed => ?_⟩
  obtain ⟨final, exited, shrinks⟩ := exits last soundLast
  change Decided
    ({ entered.withBody last with
      frames := ⟨line.number, line.indentation, directives⟩ :: (entered.withBody last).frames }.step
        source closing isLast) _ _
  cases directives with
  | nil =>
      -- Nothing was opened, so the line is text after the state before.
      cases exited
      obtain ⟨middle, same, soundMiddle, shrunk⟩ := shrinks
      have whole := (growth.trans later).trans shrunk
      rw [same, ← whole.base]
      apply ((inside.grow soundMiddle whole).step_plain_closing_decided source rfl formed closes
        isLast).weaken
      rintro final ⟨grownMore, rfl, sound, text⟩
      exact ⟨grownMore, rfl, sound, shrunk.trans text⟩
  | cons directive rest =>
      have nonempty := List.cons_ne_nil directive rest
      have pieces : Placed.pieces body.base ⟨closing, opened, directive :: rest, isLast⟩ = [] :=
        Placed.pieces_dropped (Line.ne_empty_of_isText (Line.isText_of_closes closes))
          (Placed.isKept_closing closes nonempty isLast) _
      have insideLast := insideEntered.grow soundLast later
      have decided := insideLast.step_directed_closing_decided
        ⟨line.number, line.indentation, directive :: rest⟩ nonempty exited closes isLast
      rw [(growth.trans later).base] at decided
      rw [pieces, Placed.marks_closing closes]
      refine decided.imp (Placed.admitted_closing_iff closes nonempty isLast) ?_
      rintro _ rfl
      exact shrinks

/-- A line opens a region with its directives if it is admitted. -/
theorem Inside.step_opening_decided (inside : state.Inside mode body opened indices) (source : Text)
    {line : Line} (formed : line.Formed) {directives : List Directive} (opens : line.Opens directives) :
    Decided (state.step source line false)
      (Placed.Admitted mode body.base ⟨line, opened, directives, false⟩)
      (Entered source state mode body opened indices directives
        (Placed.pieces body.base ⟨line, opened, directives, false⟩)
        (Placed.marks body.base ⟨line, opened, directives, false⟩)) := by
  cases opens with
  | plain kind => exact inside.step_plain_opening_decided source formed kind
  | directed kind parsed => exact inside.step_directed_opening_decided source kind parsed

/-- Inside a body the lines of an outline are accepted exactly if all of them are admitted in their
places. They add their pieces and marks to the body. -/
theorem Inside.run_decided (inside : state.Inside mode body opened indices) (source : Text)
    (outline : Outline) (formed : ∀ line ∈ outline.lines, line.Formed) (atEnd : Bool) :
    Decided (state.run source atEnd outline.lines)
      (∀ placed ∈ outline.placed opened atEnd, placed.Admitted mode body.base)
      (state.Adds body indices ((outline.placed opened atEnd).flatMap (Placed.pieces body.base))
        ((outline.placed opened atEnd).flatMap (Placed.marks body.base))) := by
  induction outline generalizing state body opened indices atEnd with
  | done => exact .of_ok rfl (fun placed member => by cases member) (.refl inside)
  | plain line between rest ih =>
      have first := inside.step_plain_decided source (formed line List.mem_cons_self) between
        (atEnd && rest.isDone)
      rw [Outline.lines_plain, run, ← rest.isDone_iff, Outline.placed, List.flatMap_cons,
        List.flatMap_cons]
      refine Decided.congr (first.bind fun next adds => ?_) List.forall_mem_cons
      obtain ⟨grown, rfl, sound, growth⟩ := adds
      have later := ih (inside.grow sound growth) (fun other member => formed other (.tail _ member)) atEnd
      rw [growth.base] at later
      exact later.weaken fun final adds => adds.after growth
  | region opening directives opens within closing closes rest withinIh restIh =>
      obtain ⟨formedOpening, formedWithin, formedClosing, formedRest⟩ :=
        Outline.forall_mem_lines_region.1 formed
      rw [run_region, Outline.placed]
      simp only [List.flatMap_cons, List.flatMap_append, List.forall_mem_cons, List.forall_mem_append]
      refine (inside.step_opening_decided source formedOpening opens).bind ?_
      rintro entered ⟨grown, inner, insideEntered, growth, closed⟩
      have running := withinIh insideEntered formedWithin false
      rw [growth.base] at running
      refine running.bind ?_
      rintro _ ⟨last, rfl, soundLast, growthLast⟩
      refine (closed last _ _ closing (atEnd && rest.isDone) growthLast soundLast closes
        formedClosing).bind ?_
      rintro _ ⟨final, rfl, soundFinal, growthFinal⟩
      have whole := growth.trans (growthLast.trans growthFinal)
      have later := restIh (inside.grow soundFinal whole) formedRest atEnd
      rw [whole.base] at later
      apply later.weaken
      intro next adds
      have together := adds.after whole
      rwa [List.append_assoc, List.append_assoc, List.append_assoc, List.append_assoc] at together

end

end Stencil.Assembly.State
