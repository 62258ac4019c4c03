/-
This file says once what each step of the assembly does if it succeeds.
-/
import Stencil.Assembly.Step

namespace Stencil.Assembly.State

section

variable {source : Text} {state next : State} {line : Line} {isLast : Bool}

theorem body_ok {body : Body} (success : state.body = .ok body) : state.body? = some body := by
  unfold State.body at success
  split at success
  · cases success
    assumption
  · cases success

/-- A blank line is left out, or its line break is one more piece of the body. -/
theorem addBlank_ok (success : state.addBlank line isLast = .ok next) :
    (isLast = true ∨ state.body? = none) ∧ next = state ∨
      isLast = false ∧ ∃ body grown, state.body? = some body ∧
        body.addPiece ⟨line.start, [], none, true, none⟩ = .ok grown ∧ next = state.withBody grown := by
  unfold addBlank at success
  split at success
  · next last =>
      cases success
      exact .inl ⟨.inl last, rfl⟩
  · next goesOn =>
      split at success
      · next none =>
          cases success
          exact .inl ⟨.inr none, rfl⟩
      · next body hasBody =>
          obtain ⟨grown, added, same⟩ := bind_ok success
          cases same
          exact .inr ⟨Bool.eq_false_iff.2 goesOn, body, grown, hasBody, added, rfl⟩

/-- A line of text is dropped, or its pieces are added to the body. -/
theorem addText_ok (success : state.addText line isLast = .ok next) :
    (state.body? = none ∨ state.insideInsert = true) ∧ next = state ∨
      state.insideInsert = false ∧ ∃ body indentation entries grown, state.body? = some body ∧
        state.relativeIndentation line = .ok indentation ∧ body.addLine entries = .ok grown ∧
          next = state.withBody grown := by
  unfold addText at success
  split at success
  · next none =>
      cases success
      exact .inl ⟨.inl none, rfl⟩
  · next body hasBody =>
      split at success
      · next inside =>
          cases success
          exact .inl ⟨.inr inside, rfl⟩
      · next outside =>
          obtain ⟨indentation, relative, success⟩ := bind_ok success
          obtain ⟨grown, added, same⟩ := bind_ok success
          cases same
          exact .inr ⟨Bool.eq_false_iff.2 outside, body, indentation, _, grown, hasBody, relative, added, rfl⟩

/-- A directive that is entered defines a template at the top level, or opens its region in the body. -/
inductive Enters (line : Line) (state : State) (directive : Directive) : State → Prop where
  | define {name : Text} (instruction : directive.instruction = .define name) (top : state.expectsDefine = true)
      (named : name.isEmpty = false) (free : state.finished.contains name = false) :
      Enters line state directive (state.withBody ⟨name, line.indentation, #[], #[], 0⟩)
  | foreach {item collection : Text} {body : Body} (instruction : directive.instruction = .foreach item collection)
      (below : state.expectsDefine = false) (outside : state.insideInsert = false) (hasBody : state.body? = some body) :
      Enters line state directive (state.withBody (body.openRegion (.foreach item collection)))
  | replace {text field : Text} {flags : Flags} {pattern : Pattern} {body : Body}
      (instruction : directive.instruction = .replace text field flags) (below : state.expectsDefine = false)
      (outside : state.insideInsert = false) (compiled : Pattern.compile? text = some pattern)
      (hasBody : state.body? = some body) :
      Enters line state directive { state.withBody (body.openRegion (.replace field flags #[])) with
        replacements := state.replacements ++ [⟨pattern, body.boundaries.size⟩] }
  | insert {field : Text} {indentation : Nat} {body : Body} (instruction : directive.instruction = .insert field)
      (below : state.expectsDefine = false) (outside : state.insideInsert = false)
      (relative : state.relativeIndentation line = .ok indentation) (hasBody : state.body? = some body) :
      Enters line state directive { state.withBody (body.openRegion (.insert indentation field)) with
        insideInsert := true }

theorem enter_ok {directive : Directive} (success : state.enter line directive = .ok next) :
    Enters line state directive next := by
  have below (expected : ¬(state.expectsDefine && directive.instruction.keyword != .define) = true)
      (other : directive.instruction.keyword ≠ .define) : state.expectsDefine = false := by
    cases top : state.expectsDefine with
    | false => rfl
    | true => exact absurd (by rw [top, bne_iff_ne.2 other]; rfl) expected
  unfold enter at success
  split at success
  · cases success
  · next expected =>
      cases instruction : directive.instruction with
      | define name =>
          rw [instruction] at success
          dsimp only at success
          split at success
          · cases success
          · next top =>
              split at success
              · cases success
              · next named =>
                  split at success
                  · cases success
                  · next free =>
                      cases success
                      exact .define instruction (by simpa using top) (Bool.eq_false_iff.2 named)
                        (Bool.eq_false_iff.2 free)
      | foreach item collection =>
          have inner := below expected (by rw [instruction]; nofun)
          rw [instruction] at success
          dsimp only at success
          split at success
          · cases success
          · next outside =>
              obtain ⟨body, found, same⟩ := bind_ok success
              cases same
              exact .foreach instruction inner (Bool.eq_false_iff.2 outside) (body_ok found)
      | replace text field flags =>
          have inner := below expected (by rw [instruction]; nofun)
          rw [instruction] at success
          dsimp only at success
          split at success
          · cases success
          · next outside =>
              split at success
              · cases success
              · next pattern compiled =>
                  obtain ⟨body, found, same⟩ := bind_ok success
                  cases same
                  exact .replace instruction inner (Bool.eq_false_iff.2 outside) compiled (body_ok found)
      | insert field =>
          have inner := below expected (by rw [instruction]; nofun)
          rw [instruction] at success
          dsimp only at success
          split at success
          · cases success
          · next outside =>
              obtain ⟨indentation, relative, success⟩ := bind_ok success
              obtain ⟨body, found, same⟩ := bind_ok success
              cases same
              exact .insert instruction inner (Bool.eq_false_iff.2 outside) relative (body_ok found)

/-- A directive that is left finishes its template, or closes its region in the body. -/
inductive Exits (source : Text) (state : State) (directive : Directive) : State → Prop where
  | define {name : Text} {body : Body} (instruction : directive.instruction = .define name)
      (inactive : state.replacements = []) (hasBody : state.body? = some body) :
      Exits source state directive { state with
        body? := none
        finished := state.finished.insert name (body.template source) }
  | replace {text field : Text} {flags : Flags} {body : Body}
      (instruction : directive.instruction = .replace text field flags) (active : state.replacements ≠ [])
      (hasBody : state.body? = some body) :
      Exits source state directive { state.withBody body.closeRegion with
        replacements := state.replacements.dropLast }
  | foreach {item collection : Text} {body : Body} (instruction : directive.instruction = .foreach item collection)
      (hasBody : state.body? = some body) : Exits source state directive (state.withBody body.closeRegion)
  | insert {field : Text} {body : Body} (instruction : directive.instruction = .insert field)
      (hasBody : state.body? = some body) :
      Exits source state directive { state.withBody body.closeRegion with insideInsert := false }

theorem Exits.hasBody {directive : Directive} (exits : Exits source state directive next) :
    ∃ body, state.body? = some body := by
  cases exits with
  | define _ _ hasBody | replace _ _ hasBody | foreach _ hasBody | insert _ hasBody => exact ⟨_, hasBody⟩

theorem closeRegion_ok (success : state.closeRegion = .ok next) :
    ∃ body, state.body? = some body ∧ next = state.withBody body.closeRegion := by
  obtain ⟨body, found, same⟩ := bind_ok success
  cases same
  exact ⟨body, body_ok found, rfl⟩

theorem exit_ok {directive : Directive} (success : state.exit source directive = .ok next) :
    Exits source state directive next := by
  unfold exit at success
  cases instruction : directive.instruction with
  | define name =>
      rw [instruction] at success
      dsimp only at success
      split at success
      · cases success
      · next inactive =>
          obtain ⟨body, found, same⟩ := bind_ok success
          cases same
          exact .define instruction (by simpa using inactive) (body_ok found)
  | replace text field flags =>
      rw [instruction] at success
      dsimp only at success
      split at success
      · cases success
      · next active =>
          obtain ⟨body, hasBody, rfl⟩ := closeRegion_ok success
          exact .replace instruction (by simpa using active) hasBody
  | foreach item collection =>
      rw [instruction] at success
      obtain ⟨body, hasBody, rfl⟩ := closeRegion_ok success
      exact .foreach instruction hasBody
  | insert field =>
      rw [instruction] at success
      obtain ⟨body, hasBody, rfl⟩ := closeRegion_ok success
      exact .insert instruction hasBody

/-- Directives are left one after another, as long as the depth is positive. -/
theorem exitAll_cons_ok {directive : Directive} {rest : List Directive}
    (success : state.exitAll source (directive :: rest) = .ok next) :
    ∃ middle, state.depth ≠ 0 ∧ { state with depth := state.depth - 1 }.exit source directive = .ok middle ∧
      middle.exitAll source rest = .ok next := by
  unfold exitAll at success
  split at success
  · cases success
  · next deep =>
      obtain ⟨middle, exited, others⟩ := bind_ok success
      exact ⟨middle, deep, exited, others⟩

/-- What a line does depends on its kind, and behind a closing line on whether its region has directives. -/
inductive Steps (source : Text) (state : State) (line : Line) (isLast : Bool) : State → Prop where
  | empty {next : State} (kind : line.kind = .empty) (added : state.addBlank line isLast = .ok next) :
      Steps source state line isLast next
  | regular {next : State} (kind : line.kind = .regular) (added : state.addText line isLast = .ok next) :
      Steps source state line isLast next
  | opening {next : State} (kind : line.kind = .opening)
      (added : (state.pushFrame line []).addText line isLast = .ok next) : Steps source state line isLast next
  | directives {start : Nat} {tokens : List Token} {directives : List Directive} {entered : State}
      (kind : line.kind = .directives start tokens)
      (parsed : Directive.parse line.number line.start tokens = .ok directives)
      (checked : state.checkIndentation line = .ok ()) (opened : state.enterAll line directives = .ok entered) :
      Steps source state line isLast (entered.pushFrame line directives)
  | plainEnd {next : State} {frame : Frame} {frames : List Frame} (kind : line.kind = .closing)
      (held : state.frames = frame :: frames) (plain : frame.directives = [])
      (added : { state with frames }.addText line isLast = .ok next) : Steps source state line isLast next
  | closing {next : State} {frame : Frame} {frames : List Frame} (kind : line.kind = .closing)
      (held : state.frames = frame :: frames) (directed : frame.directives ≠ [])
      (checked : { state with frames }.checkIndentation line = .ok ())
      (exited : { state with frames }.exitAll source frame.directives.reverse = .ok next) :
      Steps source state line isLast next

theorem step_ok (success : state.step source line isLast = .ok next) : Steps source state line isLast next := by
  unfold step at success
  cases kind : line.kind with
  | empty =>
      rw [kind] at success
      exact .empty kind success
  | regular =>
      rw [kind] at success
      exact .regular kind success
  | opening =>
      rw [kind] at success
      exact .opening kind success
  | directives start tokens =>
      rw [kind] at success
      obtain ⟨directives, parsed, success⟩ := bind_ok success
      obtain ⟨_, checked, success⟩ := bind_ok success
      obtain ⟨entered, opened, same⟩ := bind_ok success
      cases same
      exact .directives kind parsed checked opened
  | closing =>
      rw [kind] at success
      dsimp only at success
      split at success
      · cases success
      · next frame frames held =>
          split at success
          · next plain => exact .plainEnd kind held (List.isEmpty_iff.1 plain) success
          · next directed =>
              obtain ⟨_, checked, exited⟩ := bind_ok success
              exact .closing kind held (by simpa using directed) checked exited

theorem finish_ok (success : state.finish = .ok next) : state.frames = [] ∧ next = state := by
  unfold finish at success
  split at success
  · next none =>
      cases success
      exact ⟨none, rfl⟩
  · cases success

end

end Stencil.Assembly.State
