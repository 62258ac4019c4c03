/-
This file says how a state stands under the directives that are open: each of these is linked to its own
boundary and pattern. Directives open and close safely.
-/
import Mathlib.Data.List.Induction
import Stencil.Proofs.Assembly.Outside
import Stencil.Proofs.Directive.Parse

namespace Stencil.Assembly

/-- The replacement of a directive with a boundary, if the directive has a pattern. -/
def replacement? (directive : Directive) (index : Nat) : Option Replacement :=
  directive.pattern?.map fun pattern => ⟨pattern, index⟩

/-- Some open directives are linked to the boundaries of a body that open their regions, and to the active
patterns. All are listed innermost first. A definition has no boundary. -/
inductive Linked (body : Body) : List Directive → List Nat → List Replacement → Prop where
  | nil : Linked body [] [] []
  | define {directive : Directive} {directives : List Directive} {indices : List Nat}
      {replacements : List Replacement} (defines : directive.isDefine = true)
      (outer : Linked body directives indices replacements) :
      Linked body (directive :: directives) indices replacements
  | region {directive : Directive} {directives : List Directive} {index : Nat} {indices : List Nat}
      {replacements : List Replacement} {indentation : Nat} {region : Region}
      (opens : directive.region? indentation = some region)
      (mark : body.marks[index]? = some (.opening region))
      (outer : Linked body directives indices replacements) :
      Linked body (directive :: directives) (index :: indices)
        ((replacement? directive index).toList ++ replacements)

namespace Linked

variable {body grown : Body} {directives : List Directive} {indices : List Nat}
  {replacements : List Replacement}

/-- A growing body keeps its links. -/
theorem grow (linked : Linked body directives indices replacements) {pieces : List Piece}
    {marks : List Mark} (growth : body.Grows grown pieces marks) :
    Linked grown directives indices replacements := by
  induction linked with
  | nil => exact .nil
  | define defines _ ih => exact .define defines ih
  | region opens mark _ ih =>
      refine .region opens ?_ ih
      rw [growth.marks, List.getElem?_append_left (List.getElem?_eq_some_iff.1 mark).1, mark]

/-- The active patterns are those of the open directives. -/
theorem patterns (linked : Linked body directives indices replacements) :
    replacements.map Replacement.pattern = directives.filterMap Directive.pattern? := by
  induction linked with
  | nil => rfl
  | @define directive _ _ _ defines _ ih =>
      have none : directive.pattern? = .none := by
        cases instruction : directive.instruction <;>
          simp_all [Directive.isDefine, Directive.pattern?, Instruction.keyword]
      rw [List.filterMap_cons_none none, ih]
  | @region directive _ _ _ _ _ _ _ _ _ ih =>
      rw [List.map_append, ih, replacement?]
      cases pattern : directive.pattern? with
      | none => rw [List.filterMap_cons_none pattern]; rfl
      | some found => rw [List.filterMap_cons_some pattern]; rfl

/-- Each active pattern belongs to a boundary that opens a replacement and is open. -/
theorem owned (linked : Linked body directives indices replacements) {replacement : Replacement}
    (member : replacement ∈ replacements) :
    body.Owns replacement.boundary ∧ replacement.boundary ∈ indices := by
  induction linked with
  | nil => cases member
  | define _ _ ih => exact ih member
  | @region directive _ index _ _ indentation region opens mark _ ih =>
      rcases List.mem_append.1 member with here | outer
      · obtain ⟨pattern, found, rfl⟩ := Option.map_eq_some_iff.1 (Option.mem_toList.1 here)
        refine ⟨?_, List.mem_cons_self⟩
        cases instruction : directive.instruction with
        | replace text field flags =>
            rw [Directive.region?, instruction] at opens
            cases opens
            exact ⟨field, flags, mark⟩
        | define | foreach | insert => simp [Directive.pattern?, instruction] at found
      · exact (ih outer).imp_right (.tail _)

end Linked

namespace State

/-- A state stands in a body under some open directives, which are listed outermost first. -/
structure Stands (state : State) (body : Body) (opened : List Directive) (indices : List Nat) :
    Prop where
  hasBody : state.body? = some body
  depth : state.depth = opened.length
  inserting : state.insideInsert = opened.any Directive.isInsert
  admitted : Directive.AllAdmitted state.mode [] opened
  /-- In a text that defines templates the outermost directive names the body, and no finished template
  has its name. -/
  named : state.mode = .multiple → ∃ directive rest name, opened = directive :: rest ∧
    directive.instruction = .define name ∧ body.name = name ∧ name ∉ state.finished.names
  linked : Linked body opened.reverse indices state.replacements.reverse
  sound : body.Sound indices

/-- Under some open directives a state stands in a body, or it is at the top level of a text that defines
templates. -/
inductive Settled (state : State) (opened : List Directive) : Prop where
  | inside {body : Body} {indices : List Nat} (stands : state.Stands body opened indices)
  | outside (outside : state.Outside) (none : opened = [])

section

variable {state next : State} {body grown : Body} {opened : List Directive} {indices : List Nat}

theorem Stands.inside (stands : state.Stands body opened indices) :
    state.Inside state.mode body opened indices where
  hasMode := rfl
  hasBody := stands.hasBody
  depth := stands.depth
  defined multiple := by
    obtain ⟨directive, rest, _, same, _⟩ := stands.named multiple
    rw [same]
    exact List.cons_ne_nil _ _
  inserting := stands.inserting
  patterns := by
    have patterns := stands.linked.patterns
    rw [List.map_reverse, List.filterMap_reverse] at patterns
    exact List.reverse_inj.1 patterns
  owned replacement member := stands.linked.owned (List.mem_reverse.2 member)
  sound := stands.sound

theorem Stands.grow (stands : state.Stands body opened indices) {pieces : List Piece}
    {marks : List Mark} (sound : grown.Sound indices) (growth : body.Grows grown pieces marks) :
    (state.withBody grown).Stands grown opened indices :=
  { stands with
    hasBody := rfl
    named := fun multiple => by rw [growth.name]; exact stands.named multiple
    linked := stands.linked.grow growth
    sound }

/-- The frames do not matter to how a state stands in a body. -/
theorem Stands.withFrames (stands : state.Stands body opened indices) (frames : List Frame) :
    { state with frames }.Stands body opened indices :=
  { stands with }

/-- A directive that is no definition opens its region in the body. -/
theorem enter_region {line : Line} {directive : Directive} (hasBody : state.body? = some body)
    (notDefine : directive.isDefine = false) (success : state.enter line directive = .ok next) :
    ∃ region, directive.region? (line.indentation - body.base) = some region ∧
      next = { state.withBody (body.openRegion region) with
        replacements := state.replacements ++ (replacement? directive body.boundaries.size).toList
        insideInsert := state.insideInsert || directive.isInsert } := by
  cases enter_ok success with
  | define instruction => simp [Directive.isDefine, instruction, Instruction.keyword] at notDefine
  | foreach instruction _ _ found =>
      cases hasBody.symm.trans found
      refine ⟨_, by rw [Directive.region?, instruction], ?_⟩
      simp [replacement?, Directive.pattern?, Directive.isInsert, instruction, Instruction.keyword, withBody]
  | replace instruction _ _ compiled found =>
      cases hasBody.symm.trans found
      refine ⟨_, by rw [Directive.region?, instruction], ?_⟩
      simp [replacement?, Directive.pattern?, Directive.isInsert, instruction, Instruction.keyword, withBody,
        compiled]
  | @insert field indentation _ instruction _ _ relative found =>
      cases hasBody.symm.trans found
      have base : indentation = line.indentation - body.base := by
        rw [relativeIndentation, hasBody] at relative
        dsimp only [Option.map_some, Option.getD_some] at relative
        split at relative <;> cases relative
        rfl
      refine ⟨_, by rw [Directive.region?, instruction], ?_⟩
      simp [replacement?, Directive.pattern?, Directive.isInsert, instruction, Instruction.keyword, withBody, base]

/-- In a body a directive opens its region safely. -/
theorem Stands.enter_safe (stands : state.Stands body opened indices) {line : Line}
    (fits : body.base ≤ line.indentation) (directive : Directive) :
    Safe (state.enter line directive) fun next => ∃ grown inner, grown.base = body.base ∧
      { next with depth := next.depth + 1 }.Stands grown (opened ++ [directive]) inner := by
  have decided := stands.inside.enter_decided [] fits directive
  refine ⟨fun next success => ?_, decided.located⟩
  have admitted := decided.holds next success
  obtain ⟨notDefine, _⟩ := stands.inside.admitted_iff.1 admitted
  obtain ⟨region, opens, rfl⟩ := enter_region stands.hasBody notDefine success
  obtain ⟨sound, growth⟩ := Body.openRegion_grows stands.sound (region?_blank opens)
  refine ⟨body.openRegion region, body.boundaries.size :: indices, rfl, ?_⟩
  exact
    { hasBody := rfl
      depth := by simp [withBody, stands.depth]
      inserting := by simp [stands.inserting]
      admitted := Directive.allAdmitted_concat.2 ⟨stands.admitted, admitted⟩
      named := fun multiple => by
        obtain ⟨first, rest, name, rfl, facts⟩ := stands.named multiple
        exact ⟨first, rest ++ [directive], name, rfl, facts⟩
      linked := by
        have size : body.boundaries.size = body.marks.length := by
          rw [Body.marks, List.length_map, Array.length_toList]
        have mark : (body.openRegion region).marks[body.boundaries.size]? = some (.opening region) := by
          rw [growth.marks, size, List.getElem?_concat_length]
        have linked := Linked.region opens mark (stands.linked.grow growth)
        have single : ((replacement? directive body.boundaries.size).toList).reverse =
            (replacement? directive body.boundaries.size).toList := by
          cases replacement? directive body.boundaries.size <;> rfl
        rw [List.reverse_append, List.reverse_append, single]
        exact linked
      sound }

/-- In a body the directives of a line open their regions safely. -/
theorem Stands.enterAll_safe (stands : state.Stands body opened indices) {line : Line}
    (fits : body.base ≤ line.indentation) (directives : List Directive) :
    Safe (state.enterAll line directives) fun next => ∃ grown inner,
      next.Stands grown (opened ++ directives) inner := by
  induction directives generalizing state body opened indices with
  | nil =>
      refine .of_ok rfl ⟨body, indices, ?_⟩
      rwa [List.append_nil]
  | cons directive rest ih =>
      rw [enterAll]
      apply (stands.enter_safe fits directive).bind
      rintro next ⟨grown, inner, base, standsNext⟩
      rw [← base] at fits
      apply (ih standsNext fits).weaken
      rintro final ⟨last, innermost, standsFinal⟩
      rw [List.append_assoc] at standsFinal
      exact ⟨last, innermost, standsFinal⟩

theorem closeRegion_eq (hasBody : state.body? = some body) :
    state.closeRegion = .ok (state.withBody body.closeRegion) := by
  rw [closeRegion, State.body, hasBody]
  rfl

/-- In a body a directive that is no definition closes the region that opened last. -/
theorem exit_region {directive : Directive} {outer : List Replacement} {index : Nat}
    (hasBody : state.body? = some body) (notDefine : directive.isDefine = false)
    (compiles : directive.compiles = true)
    (known : state.replacements = outer ++ (replacement? directive index).toList) (source : Text) :
    state.exit source directive = .ok { state.withBody body.closeRegion with
      replacements := outer
      insideInsert := state.insideInsert && !directive.isInsert } := by
  cases instruction : directive.instruction with
  | define name => simp [Directive.isDefine, instruction, Instruction.keyword] at notDefine
  | replace text field flags =>
      rw [Directive.compiles, instruction] at compiles
      obtain ⟨pattern, compiled⟩ := Option.isSome_iff_exists.1 compiles
      have last : replacement? directive index = some ⟨pattern, index⟩ := by
        rw [replacement?, Directive.pattern?, instruction]
        dsimp only
        rw [compiled, Option.map_some]
      rw [last, Option.toList_some] at known
      rw [exit, instruction]
      dsimp only
      rw [known, if_neg (by simp), List.dropLast_concat]
      refine (closeRegion_eq (by exact hasBody)).trans ?_
      simp [withBody, Directive.isInsert, instruction, Instruction.keyword]
  | foreach item collection =>
      have none : replacement? directive index = .none := by
        rw [replacement?, Directive.pattern?, instruction, Option.map_none]
      rw [none, Option.toList_none, List.append_nil] at known
      rw [exit, instruction, ← known]
      refine (closeRegion_eq (by exact hasBody)).trans ?_
      simp [withBody, Directive.isInsert, instruction, Instruction.keyword]
  | insert field =>
      have none : replacement? directive index = .none := by
        rw [replacement?, Directive.pattern?, instruction, Option.map_none]
      rw [none, Option.toList_none, List.append_nil] at known
      rw [exit, instruction, ← known]
      refine (closeRegion_eq (by exact hasBody)).trans ?_
      simp [withBody, Directive.isInsert, instruction, Instruction.keyword]

/-- The definition of a body can be closed when no other directive is open. -/
theorem Stands.exit_definition {directive : Directive} (stands : state.Stands body [directive] indices)
    (defines : directive.isDefine = true) (none : state.replacements = []) (source : Text) :
    ∃ next, { state with depth := 0 }.exit source directive = .ok next ∧ next.Outside := by
  have admitted : directive.Admitted state.mode [] := stands.admitted [] directive [] rfl
  obtain ⟨multiple, _⟩ := admitted.defines.1 defines
  obtain ⟨name, instruction⟩ := admitted_top_iff.1 (multiple ▸ admitted)
  have notInsert : state.insideInsert = false := by
    rw [stands.inserting]
    simp [Directive.isInsert, instruction, Instruction.keyword]
  refine ⟨{ state with
    depth := 0, body? := .none
    finished := state.finished.insert name (body.template source) }, ?_, multiple, rfl, rfl, notInsert, none⟩
  rw [exit, instruction]
  dsimp only
  rw [none, if_neg (by simp), State.body, stands.hasBody]
  rfl

/-- A state stands under the other directives when the region of the last one is closed. -/
theorem Stands.closeRegion {directive : Directive} {index : Nat} {replacements : List Replacement}
    (stands : state.Stands body (opened ++ [directive]) (index :: indices)) (notDefine : directive.isDefine = false)
    (outer : Linked body opened.reverse indices replacements.reverse) :
    { state.withBody body.closeRegion with
      depth := opened.length
      replacements
      insideInsert := state.insideInsert && !directive.isInsert }.Stands body.closeRegion opened indices := by
  obtain ⟨others, admitted⟩ := Directive.allAdmitted_concat.1 stands.admitted
  obtain ⟨sound, growth⟩ := Body.closeRegion_grows stands.sound
  have notInserting : opened.any Directive.isInsert = false := by
    rw [List.any_eq_false]
    intro other member
    rw [admitted.outside other member]
    exact Bool.false_ne_true
  exact
    { hasBody := rfl
      depth := rfl
      inserting := by
        rw [notInserting]
        simp [stands.inserting, notInserting]
      admitted := others
      named := fun multiple => by
        obtain ⟨first, rest, name, opening, instruction, facts⟩ := stands.named multiple
        cases opened with
        | nil =>
            cases opening
            simp [Directive.isDefine, instruction, Instruction.keyword] at notDefine
        | cons outermost more =>
            obtain ⟨rfl, rfl⟩ := List.cons.inj opening
            exact ⟨_, more, name, rfl, instruction, facts⟩
      linked := outer.grow growth
      sound }

/-- The directive that opened last can be closed. -/
theorem Stands.exit_ok {directive : Directive}
    (stands : state.Stands body (opened ++ [directive]) indices) (source : Text) :
    ∃ next, { state with depth := opened.length }.exit source directive = .ok next ∧
      next.Settled opened := by
  obtain ⟨_, admitted⟩ := Directive.allAdmitted_concat.1 stands.admitted
  have linked := stands.linked
  rw [List.reverse_concat] at linked
  generalize same : state.replacements.reverse = replacements at linked
  cases linked with
  | define defines outer =>
      obtain ⟨_, rfl⟩ := admitted.defines.1 defines
      cases outer
      obtain ⟨next, exited, outside⟩ := stands.exit_definition defines (List.reverse_eq_nil_iff.1 same) source
      exact ⟨next, exited, .outside outside rfl⟩
  | @region _ _ index outerIndices outerReplacements indentation region opens mark outer =>
      have notDefine : directive.isDefine = false := by
        have isSome := directive.region?_isSome indentation
        rw [opens] at isSome
        simpa using isSome.symm
      have known : state.replacements =
          outerReplacements.reverse ++ (replacement? directive index).toList := by
        rw [← List.reverse_reverse state.replacements, same, List.reverse_append]
        cases replacement? directive index <;> rfl
      have exited := @exit_region { state with depth := opened.length } body directive
        outerReplacements.reverse index stands.hasBody notDefine admitted.compiles known source
      rw [← List.reverse_reverse outerReplacements] at outer
      exact ⟨_, exited, .inside (stands.closeRegion notDefine outer)⟩

/-- Directives that opened last can be closed. -/
theorem Settled.exitAll_ok {directives : List Directive} (settled : state.Settled (opened ++ directives))
    (source : Text) :
    ∃ next, state.exitAll source directives.reverse = .ok next ∧ next.Settled opened := by
  induction directives using List.reverseRecOn generalizing state with
  | nil =>
      rw [List.append_nil] at settled
      exact ⟨state, rfl, settled⟩
  | append_singleton directives directive ih =>
      rw [← List.append_assoc] at settled
      cases settled with
      | outside _ none => simp at none
      | inside stands =>
          obtain ⟨middle, exited, settledMiddle⟩ := stands.exit_ok source
          obtain ⟨next, others, settledNext⟩ := ih settledMiddle
          refine ⟨next, ?_, settledNext⟩
          have depth : state.depth = (opened ++ directives).length + 1 := by
            rw [stands.depth, List.length_append, List.length_singleton]
          rw [List.reverse_concat, exitAll, if_neg (by rw [depth]; exact Nat.succ_ne_zero _), depth,
            Nat.add_sub_cancel, exited]
          exact others

/-- The frames do not matter to how a state is settled. -/
theorem Settled.withFrames (settled : state.Settled opened) (frames : List Frame) :
    { state with frames }.Settled opened := by
  cases settled with
  | inside stands => exact .inside (stands.withFrames frames)
  | outside outside none => exact .outside (outside.with frames state.finished) none

theorem Settled.addBlank_safe (settled : state.Settled opened) (line : Line) (isLast : Bool) :
    Safe (state.addBlank line isLast) (·.Settled opened) := by
  cases settled with
  | outside outside none => exact .of_ok (outside.addBlank_eq line isLast) (.outside outside none)
  | inside stands =>
      apply (stands.inside.addBlank_decided line isLast).safe.weaken
      rintro next ⟨grown, rfl, sound, growth⟩
      exact .inside (stands.grow sound growth)

theorem Settled.addText_safe (settled : state.Settled opened) {line : Line} (formed : line.Formed)
    (isLast : Bool) : Safe (state.addText line isLast) (·.Settled opened) := by
  cases settled with
  | outside outside none => exact .of_ok (outside.addText_eq line isLast) (.outside outside none)
  | inside stands =>
      apply (stands.inside.addText_decided formed isLast).safe.weaken
      rintro next ⟨grown, rfl, sound, growth⟩
      exact .inside (stands.grow sound growth)

/-- The check of a line passes if the line does not stand left of the base of a body. -/
theorem Settled.checkIndentation_safe (settled : state.Settled opened) (line : Line) :
    Safe (state.checkIndentation line) fun _ =>
      ∀ body, state.body? = some body → body.base ≤ line.indentation := by
  cases settled with
  | outside outside _ =>
      refine .of_ok (outside.checkIndentation_eq line) fun body same => ?_
      rw [outside.hasBody] at same
      cases same
  | inside stands =>
      apply (stands.inside.checkIndentation_decided line).safe.weaken
      intro _ fits body same
      rw [stands.hasBody] at same
      cases same
      exact fits

/-- The directives of a line open safely. At the top level the first of them must be a definition. -/
theorem Settled.enterAll_safe (settled : state.Settled opened) {line : Line}
    (fits : ∀ body, state.body? = some body → body.base ≤ line.indentation)
    (directives : List Directive) :
    Safe (state.enterAll line directives) (·.Settled (opened ++ directives)) := by
  cases settled with
  | inside stands =>
      apply (stands.enterAll_safe (fits _ stands.hasBody) directives).weaken
      rintro next ⟨grown, inner, standsNext⟩
      exact .inside standsNext
  | outside outside none =>
      subst none
      cases directives with
      | nil => exact .of_ok rfl (.outside outside rfl)
      | cons directive rest =>
          rw [enterAll]
          have entered := outside.enter_decided line directive
          refine (entered.given.safe).bind ?_
          rintro _ ⟨⟨admitted, _⟩, name, instruction, absent, rfl⟩
          have inside := outside.inside instruction line.indentation
          have stands : { state.withBody ⟨name, line.indentation, #[], #[], 0⟩ with
              depth := state.depth + 1 }.Stands ⟨name, line.indentation, #[], #[], 0⟩ [directive] [] :=
            { hasBody := rfl
              depth := inside.depth
              inserting := inside.inserting
              admitted := Directive.allAdmitted_cons.2
                ⟨outside.hasMode ▸ admitted, Directive.allAdmitted_nil _ _⟩
              named := fun _ => ⟨directive, [], name, rfl, instruction, rfl, absent⟩
              linked := by
                change Linked _ [directive] [] state.replacements.reverse
                rw [outside.replacements]
                exact .define (by simp [Directive.isDefine, instruction, Instruction.keyword]) .nil
              sound := inside.sound }
          apply (stands.enterAll_safe (Nat.le_refl _) rest).weaken
          rintro next ⟨grown, inner, standsNext⟩
          exact .inside standsNext

end

end State

end Stencil.Assembly
