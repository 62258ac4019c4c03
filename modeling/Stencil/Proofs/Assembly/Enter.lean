/-
This file shows that directives open their regions in a body exactly if they are admitted, and that closing
these regions again leads back to the state before.
-/
import Stencil.Proofs.Assembly.Inside

namespace Stencil.Assembly.State

/-- The region of a directive has no recorded sites. -/
theorem region?_blank {directive : Directive} {indentation : Nat} {region : Region}
    (opens : directive.region? indentation = some region) : region.blank = region := by
  unfold Directive.region? at opens
  split at opens <;> cases opens <;> rfl

section

variable {state next : State} {mode : Mode} {body grown : Body} {opened : List Directive}
  {indices : List Nat}

/-- Inside a body a directive is admitted if it is no definition, no insertion is open, and its pattern
compiles. -/
theorem Inside.admitted_iff (inside : state.Inside mode body opened indices) {directive : Directive} :
    directive.Admitted mode opened ↔
      directive.isDefine = false ∧ state.insideInsert = false ∧ directive.compiles = true := by
  have outside : state.insideInsert = false ↔ ∀ other ∈ opened, other.isInsert = false := by
    rw [inside.inserting, List.any_eq_false]
    exact forall₂_congr fun other _ => iff_of_eq (Bool.not_eq_true _)
  have notTop : ¬(mode = .multiple ∧ opened = []) := fun top => inside.defined top.1 top.2
  rw [outside]
  constructor
  · intro admitted
    exact ⟨Bool.eq_false_iff.2 fun defines => notTop (admitted.defines.1 defines), admitted.outside,
      admitted.compiles⟩
  · rintro ⟨notDefine, none, compiles⟩
    exact ⟨⟨fun defines => (Bool.eq_false_iff.1 notDefine defines).elim, fun top => absurd top notTop⟩,
      none, compiles⟩

/-- The state behind the opening of a region is inside the grown body. -/
theorem Inside.openRegion (inside : state.Inside mode body opened indices) {region : Region}
    (blank : region.blank = region) {directive : Directive} {replacements : List Replacement}
    {insideInsert : Bool}
    (patterns : replacements.map Replacement.pattern =
      opened.filterMap Directive.pattern? ++ [directive].filterMap Directive.pattern?)
    (inserting : insideInsert = (state.insideInsert || directive.isInsert))
    (known : ∀ replacement ∈ replacements, replacement ∈ state.replacements ∨
      replacement.boundary = body.boundaries.size ∧ ∃ field flags, region = .replace field flags #[]) :
    { state.withBody (body.openRegion region) with
      replacements, insideInsert, depth := state.depth + 1 }.Inside mode (body.openRegion region)
        (opened ++ [directive]) (body.boundaries.size :: indices) := by
  obtain ⟨sound, growth⟩ := Body.openRegion_grows inside.sound blank
  refine
    { hasMode := inside.hasMode
      hasBody := rfl
      depth := by rw [List.length_append, List.length_singleton, ← inside.depth]
      defined := fun _ empty => by simp at empty
      inserting := by rw [inserting, inside.inserting, List.any_append]; simp
      patterns := by rw [patterns, List.filterMap_append]
      owned := fun replacement member => ?_
      sound }
  rcases known replacement member with older | ⟨last, field, flags, rfl⟩
  · obtain ⟨owns, stillOpen⟩ := inside.owned replacement older
    exact ⟨owns.grow growth, .tail _ stillOpen⟩
  · rw [last]
    refine ⟨⟨field, flags, ?_⟩, List.mem_cons_self⟩
    have size : body.boundaries.size = body.marks.length := by
      rw [Body.marks, List.length_map, Array.length_toList]
    rw [growth.marks, size, List.getElem?_concat_length]

/-- A directive has opened its region in a body. Closing the region later leads back to the state before,
with the body of that time. -/
def Opened (source : Text) (line : Line) (state : State) (mode : Mode) (body : Body)
    (opened : List Directive) (indices : List Nat) (directive : Directive) (next : State) : Prop :=
  ∃ region, directive.region? (line.indentation - body.base) = some region ∧
    { next with depth := next.depth + 1 }.Inside mode (body.openRegion region) (opened ++ [directive])
      (body.boundaries.size :: indices) ∧
    ∀ inner : Body, (next.withBody inner).exit source directive = .ok (state.withBody inner.closeRegion)

/-- Inside a body no definition opens. -/
theorem Inside.enter_define (inside : state.Inside mode body opened indices) (line : Line)
    {directive : Directive} (defines : directive.isDefine = true) :
    state.enter line directive = refuse directive .misplacedDefine := by
  have expects := inside.expectsDefine
  cases instruction : directive.instruction with
  | define name => simp [enter, expects, instruction]
  | foreach | replace | insert => simp [Directive.isDefine, instruction, Instruction.keyword] at defines

/-- While an insertion is open, no directive opens. -/
theorem Inside.enter_inserting (inside : state.Inside mode body opened indices) (line : Line)
    {directive : Directive} (notDefine : directive.isDefine = false)
    (inserting : state.insideInsert = true) :
    state.enter line directive = refuse directive .insideInsert := by
  have expects := inside.expectsDefine
  cases instruction : directive.instruction with
  | define name => simp [Directive.isDefine, instruction, Instruction.keyword] at notDefine
  | foreach | replace | insert => simp [enter, expects, instruction, inserting]

/-- A directive opens a loop. -/
theorem Inside.enter_foreach (inside : state.Inside mode body opened indices) (source : Text)
    (line : Line) {directive : Directive} {item collection : Text}
    (instruction : directive.instruction = .foreach item collection)
    (inserting : state.insideInsert = false) :
    ∃ next, state.enter line directive = .ok next ∧
      Opened source line state mode body opened indices directive next := by
  refine ⟨state.withBody (body.openRegion (.foreach item collection)), ?_,
    .foreach item collection, ?_, ?_, fun inner => ?_⟩
  · simp only [enter, inside.expectsDefine, instruction, inserting, inside.body_eq, Bool.false_and,
      Bool.false_eq_true, if_false]
    rfl
  · rw [Directive.region?, instruction]
  · apply inside.openRegion rfl
    · simp [withBody, inside.patterns, Directive.pattern?, instruction]
    · simp [withBody, inserting, Directive.isInsert, instruction, Instruction.keyword]
    · intro replacement member
      exact .inl member
  · rw [exit, instruction]
    rfl

/-- A directive opens a replacement, whose pattern is active from then on. -/
theorem Inside.enter_replace (inside : state.Inside mode body opened indices) (source : Text)
    (line : Line) {directive : Directive} {text field : Text} {flags : Flags}
    (instruction : directive.instruction = .replace text field flags) {pattern : Pattern}
    (compiled : Pattern.compile? text = some pattern) (inserting : state.insideInsert = false) :
    ∃ next, state.enter line directive = .ok next ∧
      Opened source line state mode body opened indices directive next := by
  refine ⟨{ state.withBody (body.openRegion (.replace field flags #[])) with
      replacements := state.replacements ++ [⟨pattern, body.boundaries.size⟩] }, ?_,
    .replace field flags #[], ?_, ?_, fun inner => ?_⟩
  · simp only [enter, inside.expectsDefine, instruction, inserting, compiled, inside.body_eq,
      Bool.false_and, Bool.false_eq_true, if_false]
    rfl
  · rw [Directive.region?, instruction]
  · apply inside.openRegion rfl
    · simp [inside.patterns, Directive.pattern?, instruction, compiled]
    · simp [withBody, inserting, Directive.isInsert, instruction, Instruction.keyword]
    · intro replacement member
      apply (List.mem_append.1 member).imp_right
      intro last
      rw [List.mem_singleton.1 last]
      exact ⟨rfl, field, flags, rfl⟩
  · have active (replacement : Replacement) :
        (state.replacements ++ [replacement]).isEmpty = false := by simp
    simp only [exit, instruction, withBody, active, Bool.false_eq_true, if_false, List.dropLast_concat]
    rfl

/-- A directive opens an insertion at the indentation of its line. -/
theorem Inside.enter_insert (inside : state.Inside mode body opened indices) (source : Text)
    {line : Line} (fits : body.base ≤ line.indentation) {directive : Directive} {field : Text}
    (instruction : directive.instruction = .insert field) (inserting : state.insideInsert = false) :
    ∃ next, state.enter line directive = .ok next ∧
      Opened source line state mode body opened indices directive next := by
  obtain ⟨_, relative, rfl⟩ := (inside.relativeIndentation_decided line).succeeds fits
  refine ⟨{ state.withBody (body.openRegion (.insert (line.indentation - body.base) field)) with
      insideInsert := true }, ?_, .insert (line.indentation - body.base) field, ?_, ?_, fun inner => ?_⟩
  · simp only [enter, inside.expectsDefine, instruction, inserting, relative, inside.body_eq,
      Bool.false_and, Bool.false_eq_true, if_false]
    rfl
  · rw [Directive.region?, instruction]
  · apply inside.openRegion rfl
    · simp [withBody, inside.patterns, Directive.pattern?, instruction]
    · simp [inserting, Directive.isInsert, instruction, Instruction.keyword]
    · intro replacement member
      exact .inl member
  · simp only [exit, instruction, withBody, inserting]
    rfl

/-- Inside a body a directive opens its region exactly if it is admitted. -/
theorem Inside.enter_decided (inside : state.Inside mode body opened indices) (source : Text)
    {line : Line} (fits : body.base ≤ line.indentation) (directive : Directive) :
    Decided (state.enter line directive) (directive.Admitted mode opened)
      (Opened source line state mode body opened indices directive) := by
  rw [inside.admitted_iff]
  cases inserting : state.insideInsert with
  | true =>
      cases defines : directive.isDefine with
      | true => exact .of_error (inside.enter_define line defines) fun admitted => by cases admitted.1
      | false =>
          exact .of_error (inside.enter_inserting line defines inserting) fun admitted => by
            cases admitted.2.1
  | false =>
      cases instruction : directive.instruction with
      | define name =>
          have defines : directive.isDefine = true := by
            simp [Directive.isDefine, instruction, Instruction.keyword]
          rw [defines]
          exact .of_error (inside.enter_define line defines) fun admitted => by cases admitted.1
      | foreach item collection =>
          obtain ⟨next, success, opens⟩ := inside.enter_foreach source line instruction inserting
          refine .of_ok success ?_ opens
          simp [Directive.isDefine, Directive.compiles, instruction, Instruction.keyword]
      | replace text field flags =>
          cases compiled : Pattern.compile? text with
          | none =>
              have failure : state.enter line directive = refuse directive (.badPattern text) := by
                simp [enter, inside.expectsDefine, instruction, inserting, compiled]
              refine .of_error failure fun admitted => ?_
              simp [Directive.compiles, instruction, compiled] at admitted
          | some pattern =>
              obtain ⟨next, success, opens⟩ :=
                inside.enter_replace source line instruction compiled inserting
              refine .of_ok success ?_ opens
              simp [Directive.isDefine, Directive.compiles, instruction, Instruction.keyword, compiled]
      | insert field =>
          obtain ⟨next, success, opens⟩ := inside.enter_insert source fits instruction inserting
          refine .of_ok success ?_ opens
          simp [Directive.isDefine, Directive.compiles, instruction, Instruction.keyword]

theorem exitAll_append (source : Text) (state : State) (first second : List Directive) :
    state.exitAll source (first ++ second) =
      state.exitAll source first >>= fun next => next.exitAll source second := by
  induction first generalizing state with
  | nil => rfl
  | cons directive rest ih =>
      rw [List.cons_append, exitAll, exitAll]
      split
      · rfl
      · simp only [ih, bind_assoc]

theorem exitAll_singleton {source : Text} {state : State} {directive : Directive} {depth : Nat}
    (deep : state.depth = depth + 1) :
    state.exitAll source [directive] = { state with depth }.exit source directive := by
  rw [exitAll, if_neg (by rw [deep]; exact Nat.succ_ne_zero depth), deep]
  exact bind_pure _

/-- Some directives have opened their regions in a body. Closing them later leads back to the state
before, with the body of that time grown by their closings. -/
def AllOpened (source : Text) (line : Line) (state : State) (mode : Mode) (body : Body)
    (opened : List Directive) (indices : List Nat) (directives : List Directive) (next : State) : Prop :=
  ∃ grown inner, next.Inside mode grown (opened ++ directives) inner ∧
    body.Grows grown [] (Directive.openings (line.indentation - body.base) directives) ∧
    ∀ last : Body, last.Sound inner → ∃ final,
      (next.withBody last).exitAll source directives.reverse = .ok final ∧
        state.Adds last indices [] (Directive.closings directives) final

/-- Inside a body the directives of a line open their regions exactly if they are admitted. -/
theorem Inside.enterAll_decided (inside : state.Inside mode body opened indices) (source : Text)
    {line : Line} (fits : body.base ≤ line.indentation) (directives : List Directive) :
    Decided (state.enterAll line directives) (Directive.AllAdmitted mode opened directives)
      (AllOpened source line state mode body opened indices directives) := by
  induction directives generalizing state body opened indices with
  | nil =>
      refine .of_ok rfl (Directive.allAdmitted_nil mode opened) ⟨body, indices, ?_, .refl body,
        fun last sound => ⟨_, rfl, last, rfl, sound, .refl last⟩⟩
      rwa [List.append_nil]
  | cons directive rest ih =>
      rw [Directive.allAdmitted_cons, enterAll]
      refine (inside.enter_decided source fits directive).bind ?_
      rintro next ⟨region, opens, insideNext, exits⟩
      obtain ⟨_, growth⟩ := Body.openRegion_grows inside.sound (region?_blank opens)
      apply (ih insideNext fits).weaken
      rintro entered ⟨grown, inner, insideEntered, more, exitsRest⟩
      refine ⟨grown, inner, ?_, ?_, fun last sound => ?_⟩
      · rwa [List.append_assoc] at insideEntered
      · have together := growth.trans more
        rwa [List.append_nil, growth.base, ← Directive.openings_cons opens] at together
      · obtain ⟨_, exited, outer, rfl, soundOuter, shrinks⟩ := exitsRest last sound
        obtain ⟨soundFinal, closed⟩ := Body.closeRegion_grows soundOuter
        have exitedFirst :
            ({ next with depth := next.depth + 1 }.withBody outer).exitAll source [directive] =
              .ok (state.withBody outer.closeRegion) :=
          (exitAll_singleton rfl).trans (exits outer)
        refine ⟨state.withBody outer.closeRegion, ?_, outer.closeRegion, rfl, soundFinal, ?_⟩
        · rw [List.reverse_cons, exitAll_append, exited]
          exact exitedFirst
        · have together := shrinks.trans closed
          rwa [List.append_nil, ← Directive.closings_cons opens] at together

end

end Stencil.Assembly.State
