/-
This file continues a text behind its last line: what refuses the text refuses the longer one, unless it is that a
region is never closed, which some lines behind the text mend.
-/
import Stencil.Proofs.Assembly.Unclosed
import Stencil.Proofs.Line.Closings
import Stencil.Proofs.Load.Concatenation
import Stencil.Proofs.Load.Safety

namespace Stencil

namespace Assembly.State

/-- The state before the first line of a text. -/
def start : Mode → State
  | .single => single
  | .multiple => multiple

theorem coherent_start (mode : Mode) : (start mode).Coherent := by
  cases mode with
  | single => exact coherent_single
  | multiple => exact coherent_multiple

theorem based_start (mode : Mode) : (start mode).Based := by
  cases mode with
  | single => exact ⟨fun _ body same => by cases same; rfl, fun body _ frame member => nomatch member⟩
  | multiple => exact ⟨nofun, fun body same => nomatch same⟩

/-- Behind the lines of a text a state is coherent, and all open definitions stand at the base of the body. -/
theorem run_start_based {mode : Mode} {source : Text} {atEnd : Bool} {lines : List Line} {next : State}
    (formed : ∀ line ∈ lines, line.Formed ∧ line.Sliced source)
    (success : (start mode).run source atEnd lines = .ok next) : next.Coherent ∧ next.Based :=
  (coherent_start mode).run_based (based_start mode) formed success

theorem ended_start (mode : Mode) : (start mode).Ended := by
  cases mode with
  | single => exact ended_single
  | multiple => exact fun body same => nomatch same

theorem frames_start (mode : Mode) : (start mode).frames = [] := by
  cases mode <;> rfl

/-- The source of some lines is the source of their templates only. -/
theorem run_start_elsewhere (mode : Mode) (source other : Text) (atEnd : Bool) (lines : List Line) :
    (start mode).run source atEnd lines = ((start mode).run other atEnd lines).map (Move.state ⟨0, 0⟩ source) := by
  have still : Move.state ⟨0, 0⟩ source (start mode) = start mode := by
    cases mode with
    | single => exact Move.state_single ⟨0, 0⟩ source
    | multiple => rfl
  have moved := Move.run_moved ⟨0, 0⟩ source (start mode) other atEnd lines
  rwa [still, funext Move.line_still, List.map_id', bimap_eq_map (Move.stop_right 0)] at moved

/-- Some lines that are followed by others are run over as on their own, but the last of them has its line break. -/
theorem run_start_continued (mode : Mode) (source other : Text) {lines : List Line}
    (formed : ∀ line ∈ lines, line.Formed) :
    (start mode).run source false lines = ((start mode).run other true lines).map fun final =>
      (Move.state ⟨0, 0⟩ source final).breakAfter lines.getLast? := by
  rw [(ended_start mode).run_break formed source, run_start_elsewhere mode source other true lines]
  cases (start mode).run other true lines <;> rfl

/-- At the end of some lines the innermost region that is left open is refused at its start. -/
theorem finish_error {state : State} {place : Place} {opened : List Line}
    (framed : state.frames = opened.map Line.frame)
    (failure : state.finish = .error (.refused (.structural place .neverClosed))) :
    ∃ line, opened.head? = some line ∧ place = ⟨line.number, line.indentation⟩ := by
  unfold finish at failure
  rw [framed] at failure
  cases opened with
  | nil => cases failure
  | cons innermost outer =>
      cases failure
      exact ⟨innermost, rfl, rfl⟩

end Assembly.State

open Assembly (Mode State)

/-- A text leaves regions open, whose opening lines are listed innermost first, and a place is the start of the
innermost of these lines. -/
structure Recogniser.Unclosed (recogniser : Recogniser) (text : Text) (place : Place) (opened : List Line) : Prop where
  leaves : ∃ lines, recogniser.lines text 0 (Text.byteSize text) = .ok lines ∧ Line.LeavesOpen lines opened
  innermost : ∃ line, opened.head? = some line ∧ place = ⟨line.number, line.indentation⟩

namespace Recogniser

variable {recogniser : Recogniser} {first second : Text} {lines : List Line}

/-- The lines of a text come first among those of a longer one. -/
theorem exists_lines_behind (ends : first.EndsLine)
    (classified : recogniser.lines (first ++ second) 0 (Text.byteSize (first ++ second)) = .ok lines) :
    ∃ earlier later, recogniser.lines first 0 (Text.byteSize first) = .ok earlier ∧ lines = earlier ++ later := by
  rw [lines_append ends] at classified
  obtain ⟨earlier, here, classified⟩ := bind_ok classified
  obtain ⟨later, _, same⟩ := map_ok classified
  exact ⟨earlier, later, here, same.symm⟩

theorem lines_sound {source : Text} {start stop : Nat} (classified : recogniser.lines source start stop = .ok lines) :
    ∀ line ∈ lines, line.Formed ∧ line.Sliced source := fun line member =>
  ⟨(lines_formed classified line member).1, Line.sliced_of_lines classified line member⟩

/-- What refuses a text refuses it with lines behind it, unless a region is never closed. -/
theorem finalState_continued (mode : Mode) (ends : first.EndsLine)
    (classified : recogniser.lines (first ++ second) 0 (Text.byteSize (first ++ second)) = .ok lines) {stop : Stop}
    (closed : ∀ place, stop ≠ .refused (.structural place .neverClosed))
    (failure : recogniser.finalState (State.start mode) first 0 (Text.byteSize first) = .error stop) :
    recogniser.finalState (State.start mode) (first ++ second) 0 (Text.byteSize (first ++ second)) = .error stop := by
  obtain ⟨earlier, later, here, rfl⟩ := exists_lines_behind ends classified
  have formed : ∀ line ∈ earlier, line.Formed := fun line member => (lines_sound here line member).1
  rw [finalState_eq here] at failure
  have stopped : (State.start mode).run first true earlier = .error stop := by
    rcases bind_error failure with stopped | ⟨final, _, unfinished⟩
    · exact stopped
    · unfold State.finish at unfinished
      split at unfinished
      · cases unfinished
      · cases unfinished
        exact absurd rfl (closed _)
  have stopsThere : (State.start mode).run (first ++ second) (true && later.isEmpty) earlier = .error stop := by
    cases later.isEmpty with
    | true =>
        change (State.start mode).run (first ++ second) true earlier = _
        rw [State.run_start_elsewhere mode (first ++ second) first, stopped]
        rfl
    | false =>
        change (State.start mode).run (first ++ second) false earlier = _
        rw [State.run_start_continued mode (first ++ second) first formed, stopped]
        rfl
  rw [finalState_eq classified, State.run_append, stopsThere]
  rfl

/-- If a region of a text is never closed, its lines are run over, and the innermost region that they leave open is
refused. -/
theorem finalState_unclosed (mode : Mode) {place : Place}
    (failure : recogniser.finalState (State.start mode) first 0 (Text.byteSize first) =
      .error (.refused (.structural place .neverClosed))) :
    ∃ lines opened final, recogniser.lines first 0 (Text.byteSize first) = .ok lines ∧
      recogniser.Unclosed first place opened ∧ (State.start mode).run first true lines = .ok final ∧
      final.frames = opened.map Line.frame := by
  cases classified : recogniser.lines first 0 (Text.byteSize first) with
  | error error =>
      rw [finalState, classified] at failure
      cases failure
      rw [lines_whole] at classified
      obtain ⟨_, _, ⟨⟩, _⟩ := Line.classify_error_iff.1 classified
  | ok lines =>
      rw [finalState_eq classified] at failure
      rcases bind_error failure with stopped | ⟨final, ran, unfinished⟩
      · exact absurd rfl (State.run_explained first (State.start mode) true lines _ stopped place)
      · have framed : (State.start mode).frames = ([] : List Line).map Line.frame := State.frames_start mode
        obtain ⟨opened, leaves, framedFinal⟩ :=
          State.run_leavesOpen (.none (Line.balanced_nil.2 rfl)) framed ran
        exact ⟨lines, opened, final, rfl, ⟨⟨lines, classified, leaves⟩, State.finish_error framedFinal unfinished⟩, ran,
          framedFinal⟩

/-- A range is no template for the reason for which its lines are refused. -/
theorem template_error_iff {source : Text} {start stop : Nat} {reason : Stop} :
    recogniser.template source start stop = .error reason ↔
      recogniser.finalState .single source start stop = .error reason := by
  constructor
  · intro failure
    rcases bind_error failure with stopped | ⟨final, _, unmade⟩
    · exact stopped
    · rcases bind_error unmade with missing | ⟨body, _, made⟩
      · unfold State.body at missing
        split at missing
        · cases missing
        · cases missing
          exact absurd failure (template_unbroken _)
      · cases made
  · intro failure
    rw [template, failure]
    rfl

theorem templates_error_iff {source : Text} {start stop : Nat} {reason : Stop} :
    recogniser.templates source start stop = .error reason ↔
      recogniser.finalState .multiple source start stop = .error reason := by
  constructor
  · intro failure
    rcases bind_error failure with stopped | ⟨_, _, made⟩
    · exact stopped
    · cases made
  · intro failure
    rw [templates, failure]
    rfl

theorem exists_template {source : Text} {start stop : Nat} {final : State}
    (success : recogniser.finalState .single source start stop = .ok final) :
    ∃ template, recogniser.template source start stop = .ok template := by
  cases made : recogniser.template source start stop with
  | ok template => exact ⟨template, rfl⟩
  | error reason => cases success.symm.trans (template_error_iff.1 made)

end Recogniser

namespace Markers

variable (markers : Markers) {first : Text}

/-- Behind the lines of a text stand closing lines at their indentation. -/
theorem lines_closings (ends : first.EndsLine) {lines : List Line}
    (classified : markers.recogniser.lines first 0 (Text.byteSize first) = .ok lines) (columns count : Nat)
    {text : Text} (continued : text = first ++ markers.closings columns count) :
    ∃ closings, markers.recogniser.lines text 0 (Text.byteSize text) = .ok (lines ++ closings) ∧
      closings.length = count ∧ ∀ line ∈ closings, line.closes = true ∧ line.indentation = columns := by
  obtain ⟨closings, classifiedClosings, length, closes⟩ := markers.classifyFrom_closings columns count 0 0
  have alone : markers.recogniser.lines (markers.closings columns count) 0
      (Text.byteSize (markers.closings columns count)) = .ok closings :=
    (Recogniser.lines_whole _ _).trans classifiedClosings
  refine ⟨closings.map (Move.behind first).line, ?_, (List.length_map _).trans length, fun line member => ?_⟩
  · rw [continued, Recogniser.lines_append ends, classified, alone]
    rfl
  · obtain ⟨other, among, rfl⟩ := List.mem_map.1 member
    obtain ⟨otherCloses, indentation⟩ := closes other among
    rw [Line.closes_iff] at otherCloses ⊢
    exact ⟨congrArg (Move.behind first).kind otherCloses, indentation⟩

/-- Lines behind a text close the regions that it leaves open, if they do not stand left of the base. -/
theorem finalState_closings (mode : Mode) (ends : first.EndsLine) {lines : List Line}
    (classified : markers.recogniser.lines first 0 (Text.byteSize first) = .ok lines) {final : State}
    (ran : (State.start mode).run first true lines = .ok final) (unclosed : final.frames ≠ []) {columns : Nat}
    (fits : ∀ body, final.body? = some body → body.base ≤ columns) {text : Text}
    (continued : text = first ++ markers.closings columns final.frames.length) :
    ∃ closed, markers.recogniser.finalState (State.start mode) text 0 (Text.byteSize text) = .ok closed := by
  obtain ⟨closings, all, length, closes⟩ := markers.lines_closings ends classified columns _ continued
  obtain ⟨formedLines, formedClosings⟩ := List.forall_mem_append.1 (Recogniser.lines_sound all)
  -- With lines behind them the lines of the text leave the same frames, and a body over the same base.
  have runs := State.run_start_continued mode text first fun line member => (formedLines line member).1
  rw [ran] at runs
  obtain ⟨coherent, _⟩ := State.run_start_based formedLines runs
  have count : ((Move.state ⟨0, 0⟩ text final).breakAfter lines.getLast?).frames.length = closings.length :=
    (List.length_map _).trans length.symm
  have closing : ∀ line ∈ closings, line.closes = true ∧ line.Formed ∧ line.Sliced text ∧
      ∀ body, ((Move.state ⟨0, 0⟩ text final).breakAfter lines.getLast?).body? = some body →
        body.base ≤ line.indentation := by
    intro line member
    obtain ⟨formed, sliced⟩ := formedClosings line member
    obtain ⟨closesLine, indentation⟩ := closes line member
    refine ⟨closesLine, formed, sliced, fun body hasBody => ?_⟩
    obtain ⟨between, moved, rfl⟩ := Option.map_eq_some_iff.1 hasBody
    obtain ⟨own, hasOwn, rfl⟩ := Option.map_eq_some_iff.1 moved
    rw [indentation]
    exact fits own hasOwn
  obtain ⟨closed, ranClosings, none⟩ := coherent.closeAll count closing true
  have behind : closings.isEmpty = false := by
    rw [List.isEmpty_eq_false_iff, ← List.length_pos_iff, length]
    exact List.length_pos_iff.2 unclosed
  refine ⟨closed, ?_⟩
  rw [Recogniser.finalState_eq all, State.run_append, behind, Bool.and_false, runs]
  exact bind_of_ok ranClosings (State.finish_eq none)

/-- The regions that a text leaves open can be closed by lines that stand no less deep than the base of its open
definition. A text that is one template has no base. -/
theorem exists_closed (mode : Mode) (ends : first.EndsLine) {place : Place}
    (failure : markers.recogniser.finalState (State.start mode) first 0 (Text.byteSize first) =
      .error (.refused (.structural place .neverClosed))) :
    ∃ opened base, markers.recogniser.Unclosed first place opened ∧
      (∀ line ∈ opened, line.Defines → line.indentation = base) ∧ (mode = .single → base = 0) ∧
      ∀ columns, base ≤ columns → ∃ closed, markers.recogniser.finalState (State.start mode)
        (first ++ markers.closings columns opened.length) 0
        (Text.byteSize (first ++ markers.closings columns opened.length)) = .ok closed := by
  obtain ⟨lines, opened, final, classified, unclosed, ran, framed⟩ := Recogniser.finalState_unclosed mode failure
  obtain ⟨coherent, based⟩ := State.run_start_based (Recogniser.lines_sound classified) ran
  have length : final.frames.length = opened.length := by rw [framed, List.length_map]
  have notEmpty : final.frames ≠ [] := by
    obtain ⟨line, head, _⟩ := unclosed.innermost
    rw [framed, Ne, List.map_eq_nil_iff]
    rintro rfl
    cases head
  have closes (base : Nat) (held : ∀ body, final.body? = some body → body.base = base) (columns : Nat)
      (deep : base ≤ columns) : ∃ closed, markers.recogniser.finalState (State.start mode)
        (first ++ markers.closings columns opened.length) 0
        (Text.byteSize (first ++ markers.closings columns opened.length)) = .ok closed := by
    refine markers.finalState_closings mode ends classified ran notEmpty (fun body hasBody => ?_)
      (by rw [length])
    exact Nat.le_trans (Nat.le_of_eq (held body hasBody)) deep
  cases hasBody : final.body? with
  | none =>
      refine ⟨opened, 0, unclosed, fun line member defines => ?_, fun _ => rfl, closes 0 fun body same => ?_⟩
      · have inside : line.frame ∈ final.frames := framed ▸ List.mem_map_of_mem member
        exact absurd defines (State.not_defines_of_opened (coherent.opened_eq_nil hasBody) inside)
      · cases hasBody.symm.trans same
  | some body =>
      refine ⟨opened, body.base, unclosed, fun line member defines => ?_, fun isSingle => ?_,
        closes body.base fun other same => ?_⟩
      · have inside : line.frame ∈ final.frames := framed ▸ List.mem_map_of_mem member
        exact based.defined body hasBody line.frame inside defines
      · have single : final.mode = .single := by
          rw [State.run_mode ran, isSingle]
          rfl
        exact based.single single body hasBody
      · cases hasBody.symm.trans same
        rfl

end Markers

/-- A text that is empty or ends with a line feed is continued with another text, and the lines of both are classified.
If the first is refused on its own for anything but a region that is never closed, both together are refused for the
same. If a region is never closed, it is refused at the start of the innermost region that the text leaves open, and
closing lines behind the text mend it: any for one template, and for a text that defines templates such as stand as deep
as its open definition. -/
theorem first_fault_stands (markers : Markers) {first : Text} (ends : first.EndsLine) :
    (∀ second lines stop,
      Line.ofRange markers (first ++ second) 0 (Text.byteSize (first ++ second)) = .ok lines →
      (∀ place, stop ≠ .refused (.structural place .neverClosed)) →
      (Template.load markers first 0 (Text.byteSize first) = .error stop →
        Template.load markers (first ++ second) 0 (Text.byteSize (first ++ second)) = .error stop) ∧
      (TemplateSet.load markers first 0 (Text.byteSize first) = .error stop →
        TemplateSet.load markers (first ++ second) 0 (Text.byteSize (first ++ second)) = .error stop)) ∧
    (∀ place, Template.load markers first 0 (Text.byteSize first) =
        .error (.refused (.structural place .neverClosed)) →
      ∃ opened, markers.recogniser.Unclosed first place opened ∧ ∀ columns, ∃ template,
        Template.load markers (first ++ markers.closings columns opened.length) 0
          (Text.byteSize (first ++ markers.closings columns opened.length)) = .ok template) ∧
    ∀ place, TemplateSet.load markers first 0 (Text.byteSize first) =
        .error (.refused (.structural place .neverClosed)) →
      ∃ opened base, markers.recogniser.Unclosed first place opened ∧
        (∀ line ∈ opened, line.Defines → line.indentation = base) ∧ ∀ columns, base ≤ columns → ∃ set,
          TemplateSet.load markers (first ++ markers.closings columns opened.length) 0
            (Text.byteSize (first ++ markers.closings columns opened.length)) = .ok set := by
  refine ⟨fun second lines stop classified closed => ⟨fun failure => ?_, fun failure => ?_⟩,
    fun place failure => ?_, fun place failure => ?_⟩
  · have alone := Recogniser.template_error_iff.1 failure
    exact Recogniser.template_error_iff.2 (Recogniser.finalState_continued .single ends classified closed alone)
  · have alone := Recogniser.templates_error_iff.1 failure
    exact Recogniser.templates_error_iff.2 (Recogniser.finalState_continued .multiple ends classified closed alone)
  · obtain ⟨opened, base, unclosed, _, margin, mended⟩ :=
      markers.exists_closed .single ends (Recogniser.template_error_iff.1 failure)
    refine ⟨opened, unclosed, fun columns => ?_⟩
    obtain ⟨closed, loaded⟩ := mended columns (Nat.le_trans (Nat.le_of_eq (margin rfl)) (Nat.zero_le columns))
    exact Recogniser.exists_template loaded
  · obtain ⟨opened, base, unclosed, defined, _, mended⟩ :=
      markers.exists_closed .multiple ends (Recogniser.templates_error_iff.1 failure)
    refine ⟨opened, base, unclosed, defined, fun columns deep => ?_⟩
    obtain ⟨closed, loaded⟩ := mended columns deep
    exact ⟨closed.finished, bind_of_ok loaded rfl⟩

/-- A text with an insertion in an insertion. -/
def nestedInsertions : Text := "é\n#region TEMPLATE INSERT($a)\n #region TEMPLATE INSERT($b)\n".toList

/-- The lines that follow the text close one region too many. -/
def strayClosings : Text := "#endregion\n#endregion\n#endregion\n".toList

/-- A replacement in a plain region, both open. -/
def openReplacement : Text := "#region\n  #region TEMPLATE REPLACE(`x`, $y)\n axb\n".toList

/-- A definition in a plain region, both open, with an insertion in which a line stands left of it. -/
def openDefinition : Text :=
  "#region\n  #region TEMPLATE DEFINE(\"a\") FOREACH($x : $y)\n\n   #region TEMPLATE INSERT($z)\nlow\n".toList

/-- A stray end is not reached behind an earlier fault, and the open regions of two texts are closed. -/
theorem first_fault_stands_nested :
    (Template.load .standard (nestedInsertions ++ strayClosings) 0 93 =
        .error (.refused (.structural ⟨2, 18⟩ .insideInsert)) ∧
      TemplateSet.load .standard (nestedInsertions ++ strayClosings) 0 93 =
        .error (.refused (.structural ⟨1, 17⟩ (.expectedDefine .insert)))) ∧
    (∃ opened, Markers.standard.recogniser.Unclosed openReplacement ⟨1, 2⟩ opened ∧ ∃ template,
      Template.load .standard (openReplacement ++ Markers.standard.closings 0 opened.length) 0
        (Text.byteSize (openReplacement ++ Markers.standard.closings 0 opened.length)) = .ok template) ∧
    ∃ opened base, Markers.standard.recogniser.Unclosed openDefinition ⟨3, 3⟩ opened ∧ ∃ set,
      TemplateSet.load .standard (openDefinition ++ Markers.standard.closings base opened.length) 0
        (Text.byteSize (openDefinition ++ Markers.standard.closings base opened.length)) = .ok set := by
  have size : Text.byteSize nestedInsertions = 60 ∧ Text.byteSize (nestedInsertions ++ strayClosings) = 93 ∧
      Text.byteSize openReplacement = 49 ∧ Text.byteSize openDefinition = 92 := by decide +kernel
  have ends : nestedInsertions.EndsLine := .inr ⟨nestedInsertions.dropLast, by decide +kernel⟩
  have endsReplacement : openReplacement.EndsLine := .inr ⟨openReplacement.dropLast, by decide +kernel⟩
  have endsDefinition : openDefinition.EndsLine := .inr ⟨openDefinition.dropLast, by decide +kernel⟩
  obtain ⟨lines, classified, _⟩ : ∃ lines, Line.ofRange .standard (nestedInsertions ++ strayClosings) 0 93 = .ok lines ∧
      lines.length = 6 := exists_ok (by decide +kernel)
  have nested : Template.load .standard nestedInsertions 0 60 =
      .error (.refused (.structural ⟨2, 18⟩ .insideInsert)) := by decide +kernel
  have undefined : (TemplateSet.load .standard nestedInsertions 0 60).map TemplateSet.names =
      .error (.refused (.structural ⟨1, 17⟩ (.expectedDefine .insert))) := by decide +kernel
  have replacing : Template.load .standard openReplacement 0 49 =
      .error (.refused (.structural ⟨1, 2⟩ .neverClosed)) := by decide +kernel
  have defining : (TemplateSet.load .standard openDefinition 0 92).map TemplateSet.names =
      .error (.refused (.structural ⟨3, 3⟩ .neverClosed)) := by decide +kernel
  rw [← size.2.1] at classified ⊢
  rw [← size.1] at nested undefined
  rw [← size.2.2.1] at replacing
  rw [← size.2.2.2] at defining
  refine ⟨⟨?_, ?_⟩, ?_, ?_⟩
  · obtain ⟨stands, _⟩ := first_fault_stands .standard ends
    exact (stands _ lines _ classified fun _ same => by cases same).1 nested
  · obtain ⟨stands, _⟩ := first_fault_stands .standard ends
    exact (stands _ lines _ classified fun _ same => by cases same).2 (map_error undefined)
  · obtain ⟨_, closable, _⟩ := first_fault_stands .standard endsReplacement
    obtain ⟨opened, unclosed, closed⟩ := closable _ replacing
    exact ⟨opened, unclosed, closed 0⟩
  · obtain ⟨_, _, closable⟩ := first_fault_stands .standard endsDefinition
    obtain ⟨opened, base, unclosed, _, closed⟩ := closable _ (map_error defining)
    exact ⟨opened, base, unclosed, closed base (Nat.le_refl base)⟩

end Stencil
