/-
This file shows that behind each line of a range the fields of the state describe one stack of open regions.
-/
import Stencil.Proofs.Assembly.Nested
import Stencil.Proofs.Assembly.Unclosed
import Stencil.Proofs.Assembly.Unmatched
import Stencil.Proofs.Outline.Insertion

namespace Stencil

namespace Assembly

/-- A replacement is that of an open directive with a boundary. It has the pattern of the directive, and this
boundary. -/
def Activates (entry : OpenDirective × Nat) (replacement : Replacement) : Prop :=
  ∃ text field flags, entry.1.directive.instruction = .replace text field flags ∧
    Pattern.compile? text = some replacement.pattern ∧ replacement.boundary = entry.2

/-- The linked replacements are those of the open directives that replace matches. -/
theorem Linked.activates {body : Body} {directives : List Directive} {indices : List Nat}
    {replacements : List Replacement} (linked : Linked body directives indices replacements)
    (compiles : ∀ directive ∈ directives, directive.compiles = true) {entries : List OpenDirective}
    (same : entries.map OpenDirective.directive = directives) :
    List.Forall₂ Activates
      (((entries.filter OpenDirective.hasRegion).zip indices).filter fun entry => entry.1.isReplace)
      replacements := by
  induction linked generalizing entries with
  | nil =>
      rw [List.map_eq_nil_iff.1 same]
      exact .nil
  | define defines outer ih =>
      obtain ⟨entry, others, rfl, rfl, rfl⟩ := List.map_eq_cons_iff.1 same
      have noRegion : entry.hasRegion = false := by rw [OpenDirective.hasRegion, defines]; rfl
      rw [List.filter_cons_of_neg (by simp [noRegion])]
      exact ih (List.forall_mem_cons.1 compiles).2 rfl
  | @region directive _ index _ _ indentation region opens mark outer ih =>
      obtain ⟨entry, others, rfl, rfl, rfl⟩ := List.map_eq_cons_iff.1 same
      obtain ⟨here, later⟩ := List.forall_mem_cons.1 compiles
      have hasRegion : entry.hasRegion = true := by
        rw [OpenDirective.hasRegion, ← entry.directive.region?_isSome indentation, opens]
        rfl
      rw [List.filter_cons_of_pos hasRegion, List.zip_cons_cons, List.filter_cons]
      cases instruction : entry.directive.instruction with
      | define => rw [Directive.region?, instruction] at opens; cases opens
      | replace text field flags =>
          rw [Directive.compiles, instruction] at here
          obtain ⟨pattern, compiled⟩ := Option.isSome_iff_exists.1 here
          have active : replacement? entry.directive index = some ⟨pattern, index⟩ := by
            rw [replacement?, Directive.pattern?, instruction]
            dsimp only
            rw [compiled, Option.map_some]
          rw [if_pos (by simp [OpenDirective.isReplace, instruction, Instruction.keyword]), active]
          exact .cons ⟨text, field, flags, instruction, compiled, rfl⟩ (ih later rfl)
      | foreach | insert =>
          have none : replacement? entry.directive index = .none := by
            rw [replacement?, Directive.pattern?, instruction, Option.map_none]
          rw [if_neg (by simp [OpenDirective.isReplace, instruction, Instruction.keyword]), none]
          exact ih later rfl

namespace State

/-- The state at the start of a text. -/
def begun : Mode → State
  | .single => single
  | .multiple => multiple

/-- The open directives that have regions, outermost first. -/
def openRegions (state : State) : List OpenDirective := state.openDirectives.filter OpenDirective.hasRegion

/-- The indices of the boundaries of the body that open a region which is not closed, outermost first. -/
def unmatched (state : State) : List Nat := (state.body?.map Body.unmatched).getD []

/-- The fields of a state describe one stack of open regions. The frames stand innermost first. -/
structure Stacked (state : State) : Prop where
  /-- The depth is the number of the directives of all frames. -/
  depth : state.depth = (state.frames.map fun frame => frame.directives.length).sum
  /-- There is a body in a text that is one template, and wherever a directive is open. -/
  body : state.body?.isSome = true ↔ state.mode = .single ∨ 0 < state.depth
  /-- In a text that is one template no directive defines a template. -/
  undefined : state.mode = .single → ∀ frame ∈ state.frames, ∀ directive ∈ frame.directives,
    directive.isDefine = false
  /-- In a text that defines templates, the first directive of the outermost frame that has any defines a template, and
  it is the only one that does. It gives the body its name, which no finished template has. -/
  defined : state.mode = .multiple → ∀ inner frame outer, state.frames = inner ++ frame :: outer →
    frame.directives ≠ [] → (∀ other ∈ outer, other.directives = []) →
    ∃ first rest name body, frame.directives = first :: rest ∧ first.instruction = .define name ∧
      (∀ directive ∈ rest ++ inner.flatMap Frame.directives, directive.isDefine = false) ∧
      state.body? = some body ∧ body.name = name ∧ name ∉ state.finished.names
  /-- The state is inside an insertion if and only if a directive that inserts is open. -/
  inserting : state.insideInsert = true ↔
    ∃ frame ∈ state.frames, ∃ directive ∈ frame.directives, directive.isInsert = true
  /-- Inside an insertion, the last directive of the innermost frame that has any inserts, and it is the only one that
  does. -/
  inserted : state.insideInsert = true → ∀ inner frame outer, state.frames = inner ++ frame :: outer →
    frame.directives ≠ [] → (∀ other ∈ inner, other.directives = []) →
    ∃ earlier last, frame.directives = earlier ++ [last] ∧ last.isInsert = true ∧
      ∀ directive ∈ outer.flatMap Frame.directives ++ earlier, directive.isInsert = false
  /-- The openings of the body that no closing matches are, in order, those of the open directives. -/
  regions : ∀ body, state.body? = some body → List.Forall₂ body.Begins state.openRegions body.unmatched
  /-- The active replacements are, in order, those of the open directives that replace matches, each with its pattern
  and with its own opening. -/
  replacements : List.Forall₂ Activates
    ((state.openRegions.zip state.unmatched).filter fun entry => entry.1.isReplace) state.replacements

section

variable {state : State} {opened : List Directive}

theorem Settled.depth_eq (settled : state.Settled opened) : state.depth = opened.length := by
  cases settled with
  | inside stands => exact stands.depth
  | outside outside none => rw [outside.depth, none, List.length_nil]

theorem Settled.inserting_eq (settled : state.Settled opened) :
    state.insideInsert = opened.any Directive.isInsert := by
  cases settled with
  | inside stands => exact stands.inserting
  | outside outside none => rw [outside.inserting, none, List.any_nil]

theorem Settled.admitted (settled : state.Settled opened) : Directive.AllAdmitted state.mode [] opened := by
  cases settled with
  | inside stands => exact stands.admitted
  | outside _ none => rw [none]; exact Directive.allAdmitted_nil _ _

/-- There is a body in a text that is one template, and wherever a directive is open. -/
theorem Settled.body_iff (settled : state.Settled opened) :
    state.body?.isSome = true ↔ state.mode = .single ∨ 0 < opened.length := by
  cases settled with
  | inside stands =>
      rw [stands.hasBody]
      refine iff_of_true rfl ?_
      cases mode : state.mode with
      | single => exact .inl rfl
      | multiple =>
          obtain ⟨first, rest, _, rfl, _⟩ := stands.named mode
          exact .inr (Nat.succ_pos _)
  | outside outside none =>
      rw [outside.hasBody, outside.hasMode, none]
      simp

/-- Each open directive was admitted while those before it were open. -/
theorem Settled.admitted_at (settled : state.Settled opened) {before after : List Directive} {directive : Directive}
    (same : opened = before ++ directive :: after) : directive.Admitted state.mode before :=
  settled.admitted before directive after same

/-- The open directives are those of the frames. -/
theorem mem_opened {directive : Directive} :
    directive ∈ state.opened ↔ ∃ frame ∈ state.frames, directive ∈ frame.directives := by
  rw [State.opened, List.mem_flatMap]
  exact exists_congr fun frame => and_congr_left fun _ => List.mem_reverse

/-- The open directives of a frame stand behind those of the frames around it. -/
theorem opened_split {inner outer : List Frame} {frame : Frame} (same : state.frames = inner ++ frame :: outer) :
    state.opened = outer.reverse.flatMap Frame.directives ++
      (frame.directives ++ inner.reverse.flatMap Frame.directives) := by
  rw [State.opened, same, List.reverse_append, List.reverse_cons, List.flatMap_append, List.flatMap_append,
    List.flatMap_singleton, List.append_assoc]

theorem reverse_flatMap_eq_nil {frames : List Frame} (none : ∀ frame ∈ frames, frame.directives = []) :
    frames.reverse.flatMap Frame.directives = [] :=
  List.flatMap_eq_nil_iff.2 fun frame member => none frame (List.mem_reverse.1 member)

theorem mem_reverse_flatMap {frames : List Frame} {directive : Directive} :
    directive ∈ frames.reverse.flatMap Frame.directives ↔ directive ∈ frames.flatMap Frame.directives :=
  List.Perm.mem_iff ((List.reverse_perm frames).flatMap_right _)

variable (coherent : state.Coherent)

include coherent

/-- The outermost directive defines the body, and no other directive defines a template. -/
theorem Coherent.defined (multiple : state.mode = .multiple) {inner outer : List Frame} {frame : Frame}
    (same : state.frames = inner ++ frame :: outer) (nonempty : frame.directives ≠ [])
    (outermost : ∀ other ∈ outer, other.directives = []) :
    ∃ first rest name body, frame.directives = first :: rest ∧ first.instruction = .define name ∧
      (∀ directive ∈ rest ++ inner.flatMap Frame.directives, directive.isDefine = false) ∧
      state.body? = some body ∧ body.name = name ∧ name ∉ state.finished.names := by
  have opened := opened_split same
  rw [reverse_flatMap_eq_nil outermost, List.nil_append] at opened
  obtain ⟨first, rest, directives⟩ := List.exists_cons_of_ne_nil nonempty
  rw [directives, List.cons_append] at opened
  cases id coherent with
  | outside _ none => rw [none] at opened; cases opened
  | @inside body indices stands =>
      obtain ⟨_, _, name, head, instruction, named, absent⟩ := stands.named multiple
      obtain ⟨rfl, rfl⟩ := List.cons.inj (opened.symm.trans head)
      refine ⟨first, rest, name, body, directives, instruction, fun directive member => ?_, stands.hasBody, named,
        absent⟩
      have behind : directive ∈ rest ++ inner.reverse.flatMap Frame.directives := by
        rwa [List.mem_append, mem_reverse_flatMap, ← List.mem_append]
      obtain ⟨before, after, split⟩ := List.append_of_mem behind
      have here : state.opened = (first :: before) ++ directive :: after := by rw [opened, split, List.cons_append]
      have admitted := coherent.admitted_at here
      exact Bool.eq_false_iff.2 fun defines => List.cons_ne_nil _ _ (admitted.defines.1 defines).2

/-- The innermost directive inserts, and no other directive does. -/
theorem Coherent.inserted (inserting : state.insideInsert = true) {inner outer : List Frame} {frame : Frame}
    (same : state.frames = inner ++ frame :: outer) (nonempty : frame.directives ≠ [])
    (innermost : ∀ other ∈ inner, other.directives = []) :
    ∃ earlier last, frame.directives = earlier ++ [last] ∧ last.isInsert = true ∧
      ∀ directive ∈ outer.flatMap Frame.directives ++ earlier, directive.isInsert = false := by
  have opened := opened_split same
  rw [reverse_flatMap_eq_nil innermost, List.append_nil] at opened
  obtain ⟨earlier, last, directives⟩ : ∃ earlier last, frame.directives = earlier ++ [last] :=
    ⟨_, _, (List.dropLast_concat_getLast nonempty).symm⟩
  rw [directives, ← List.append_assoc] at opened
  rw [coherent.inserting_eq] at inserting
  obtain ⟨directive, among, inserts⟩ := List.any_eq_true.1 inserting
  obtain ⟨before, after, split⟩ := List.append_of_mem among
  have admitted := coherent.admitted
  rw [split] at admitted
  obtain rfl := admitted.insertion_last inserts
  obtain ⟨rfl, innermostOne⟩ := List.append_inj' (opened.symm.trans split) rfl
  obtain rfl : last = directive := List.cons.inj innermostOne |>.1
  refine ⟨earlier, last, directives, inserts, fun other member => ?_⟩
  have earlierOne : other ∈ outer.reverse.flatMap Frame.directives ++ earlier := by
    rwa [List.mem_append, mem_reverse_flatMap, ← List.mem_append]
  exact (coherent.admitted_at split).outside other earlierOne

/-- The active replacements are those of the open directives that replace matches. -/
theorem Coherent.activates (tracks : state.Tracks state.openDirectives) :
    List.Forall₂ Activates
      ((state.openRegions.zip state.unmatched).filter fun entry => entry.1.isReplace) state.replacements := by
  cases id coherent with
  | outside outside _ =>
      rw [unmatched, outside.hasBody, outside.replacements, Option.map_none, Option.getD_none, List.zip_nil_right]
      exact .nil
  | @inside body indices stands =>
      obtain ⟨spans, ledger⟩ := stands.sound.recorded
      have own : body.unmatched = indices.reverse := ledger.paired.unmatched
      have same : state.unmatched = indices.reverse := by
        rw [unmatched, stands.hasBody, Option.map_some, Option.getD_some, own]
      have count : state.openRegions.length = indices.reverse.length := by
        rw [← own]
        exact (tracks body stands.hasBody).length_eq
      have compiles : ∀ directive ∈ state.opened.reverse, directive.compiles = true := by
        intro directive member
        obtain ⟨before, after, split⟩ := List.append_of_mem (List.mem_reverse.1 member)
        exact (coherent.admitted_at split).compiles
      have directives : state.openDirectives.reverse.map OpenDirective.directive = state.opened.reverse := by
        rw [List.map_reverse, openDirectives_map]
      have active := stands.linked.activates compiles directives
      -- The links are listed innermost first.
      rw [same, ← List.forall₂_reverse_iff, ← List.filter_reverse, List.zip, List.reverse_zipWith count,
        List.reverse_reverse, openRegions, ← List.filter_reverse]
      exact active

/-- A coherent state whose open directives are tracked describes one stack of regions. -/
theorem Coherent.stacked (tracks : state.Tracks state.openDirectives) : state.Stacked where
  depth := by rw [coherent.depth_eq, State.opened, List.length_flatMap, List.map_reverse, List.sum_reverse]
  body := by rw [coherent.body_iff, coherent.depth_eq]
  undefined isSingle frame member directive inside :=
    coherent.undefined isSingle directive (mem_opened.2 ⟨frame, member, inside⟩)
  defined multiple _ _ _ := coherent.defined multiple
  inserting := by
    rw [coherent.inserting_eq, List.any_eq_true]
    constructor
    · rintro ⟨directive, among, inserts⟩
      obtain ⟨frame, member, inside⟩ := mem_opened.1 among
      exact ⟨frame, member, directive, inside, inserts⟩
    · rintro ⟨frame, member, directive, inside, inserts⟩
      exact ⟨directive, mem_opened.2 ⟨frame, member, inside⟩, inserts⟩
  inserted inserting _ _ _ := coherent.inserted inserting
  regions := tracks
  replacements := coherent.activates tracks

end

theorem begun_mode (mode : Mode) : (begun mode).mode = mode := by
  cases mode <;> rfl

theorem coherent_begun (mode : Mode) : (begun mode).Coherent := by
  cases mode with
  | single => exact coherent_single
  | multiple => exact coherent_multiple

theorem tracks_begun (mode : Mode) : (begun mode).Tracks (begun mode).openDirectives := by
  cases mode with
  | single =>
      rintro _ ⟨⟩
      exact Body.aligned_empty _ _ rfl
  | multiple => exact nofun

end State

end Assembly

/-- A walk over the lines of a range passes through the state behind each line up to which it succeeds, and the fields
of this state describe one stack of open regions. This holds for a text that is one template and for a text that defines
templates. -/
theorem walk_keeps_one_stack {recogniser : Recogniser} {source : Text} {start stop : Nat} {passed left : List Line}
    (classified : recogniser.lines source start stop = .ok (passed ++ left)) (mode : Assembly.Mode)
    {state : Assembly.State} (reached : (Assembly.State.begun mode).run source left.isEmpty passed = .ok state) :
    (Assembly.State.begun mode).walk source (passed ++ left) = state.walk source left ∧ state.mode = mode ∧
      state.Stacked := by
  have passes : (Assembly.State.begun mode).walk source (passed ++ left) = state.walk source left := by
    rw [Assembly.State.walk_eq_run, Assembly.State.walk_eq_run, Assembly.State.run_append, Bool.true_and, reached]
    rfl
  have formed : ∀ line ∈ passed, line.Formed ∧ line.Sliced source := fun line member =>
    ⟨(Recogniser.lines_formed classified line (List.mem_append_left left member)).1,
      Line.sliced_of_lines classified line (List.mem_append_left left member)⟩
  obtain ⟨coherent, tracks⟩ := (Assembly.State.coherent_begun mode).run_tracks (Assembly.State.tracks_begun mode) formed
    reached
  exact ⟨passes, (Assembly.State.run_mode reached).trans (Assembly.State.begun_mode mode), coherent.stacked tracks⟩

/-- A text with two replacements and an insertion that are open inside a loop. A replacement before them has closed, and
regions without directives stand between them. -/
def interleavedRegions : Text :=
  ("#region TEMPLATE FOREACH($x : $xs) REPLACE(`a`, $x)\na\n#region plain\n#region TEMPLATE REPLACE(`b`, $y)\n" ++
    "#endregion\n#region TEMPLATE note\n  #region TEMPLATE REPLACE(`c`, $z) INSERT($w)\na\n  #endregion\n").toList

/-- A text that defines two templates. In the second one a replacement and an insertion are open. -/
def interleavedDefinitions : Text :=
  ("#region TEMPLATE DEFINE(\"s\")\n#endregion\n#region plain\n  #region TEMPLATE DEFINE(\"t\") REPLACE(`a`, $x)\n" ++
    "    #region TEMPLATE INSERT($w)\n\n  #endregion\n").toList

theorem walk_keeps_one_stack_interleaved :
    (∃ passed left state, Line.ofRange .standard interleavedRegions 0 197 = .ok (passed ++ left) ∧ passed.length = 8 ∧
      Assembly.State.single.run interleavedRegions left.isEmpty passed = .ok state ∧
      (state.depth, state.unmatched, state.replacements.map Replacement.boundary) = (4, [0, 1, 4, 5], [1, 4]) ∧
      state.Stacked) ∧
    ∃ passed left state, Line.ofRange .standard interleavedDefinitions 0 148 = .ok (passed ++ left) ∧
      passed.length = 6 ∧ Assembly.State.multiple.run interleavedDefinitions left.isEmpty passed = .ok state ∧
      (state.finished.names, (state.body?.map Assembly.Body.marks).getD []) =
        ([['s']], [.opening (.replace ['x'] .empty #[]), .opening (.insert 2 ['w'])]) ∧
      state.Stacked := by
  have single : (Line.ofRange .standard interleavedRegions 0 197).toOption.map (fun lines =>
      ((lines.take 8).length, (Assembly.State.single.run interleavedRegions (lines.drop 8).isEmpty
        (lines.take 8)).toOption.map fun state =>
          (state.depth, state.unmatched, state.replacements.map Replacement.boundary))) =
        some (8, some (4, [0, 1, 4, 5], [1, 4])) := by
    decide +kernel
  have multiple : (Line.ofRange .standard interleavedDefinitions 0 148).toOption.map (fun lines =>
      ((lines.take 6).length, (Assembly.State.multiple.run interleavedDefinitions (lines.drop 6).isEmpty
        (lines.take 6)).toOption.map fun state =>
          (state.finished.names, (state.body?.map Assembly.Body.marks).getD []))) =
        some (6, some ([['s']], [.opening (.replace ['x'] .empty #[]), .opening (.insert 2 ['w'])])) := by
    decide +kernel
  obtain ⟨lines, classified, facts⟩ := exists_ok single
  obtain ⟨others, classifiedOthers, factsOthers⟩ := exists_ok multiple
  obtain ⟨count, reached⟩ := Prod.mk.inj facts
  obtain ⟨countOthers, reachedOthers⟩ := Prod.mk.inj factsOthers
  obtain ⟨state, ran, fields⟩ := exists_ok reached
  obtain ⟨other, ranOther, fieldsOther⟩ := exists_ok reachedOthers
  rw [← List.take_append_drop 8 lines] at classified
  rw [← List.take_append_drop 6 others] at classifiedOthers
  exact ⟨⟨_, _, state, classified, count, ran, fields, (walk_keeps_one_stack classified .single ran).2.2⟩,
    _, _, other, classifiedOthers, countOthers, ranOther, fieldsOther,
    (walk_keeps_one_stack classifiedOthers .multiple ranOther).2.2⟩

end Stencil
