/-
This file runs a single template inside a definition: below an outer frame each line does what it does without
one, until a line closes that frame.
-/
import Stencil.Proofs.Assembly.Coherent
import Stencil.Proofs.Outcome

namespace Stencil

/-- The stop says that the regions of a text are not balanced. -/
def Stop.Unbalanced (stop : Stop) : Prop :=
  ∃ place, stop = .refused (.structural place .strayEnd) ∨
    stop = .refused (.structural place .neverClosed)

namespace Assembly

namespace Body

def rename (name : Text) (body : Body) : Body := { body with name }

theorem addPiece_rename (name : Text) (body : Body) (piece : Piece) :
    (body.rename name).addPiece piece = (body.addPiece piece).map (rename name) := by
  rw [addPiece, addPiece]
  split <;> rfl

theorem addSite_rename (name : Text) (body : Body) (boundary : Nat) :
    (body.rename name).addSite boundary = (body.addSite boundary).map (rename name) := by
  have pieces : (body.rename name).pieces = body.pieces := rfl
  have boundaries : (body.rename name).boundaries = body.boundaries := rfl
  rw [addSite, addSite, pieces, boundaries]
  split
  · rfl
  · split <;> rfl

theorem addLine_rename (name : Text) (body : Body) (entries : List (Piece × Option Nat)) :
    (body.rename name).addLine entries = (body.addLine entries).map (rename name) := by
  induction entries generalizing body with
  | nil => rfl
  | cons entry rest ih =>
      obtain ⟨piece, boundary?⟩ := entry
      rw [addLine, addLine]
      refine bind_eq_map (addPiece_rename name body piece) fun grown _ => ?_
      cases boundary? with
      | none => exact ih grown
      | some boundary => exact bind_eq_map (addSite_rename name grown boundary) fun last _ => ih last

end Body

namespace State

/-- The state inside a definition that a frame has opened in a text that defines templates. -/
def nest (frame : Frame) (name : Text) (state : State) : State :=
  { state with
    mode := .multiple
    body? := state.body?.map (Body.rename name)
    frames := state.frames ++ [frame]
    depth := state.depth + 1 }

section

variable (frame : Frame) (name : Text) (state : State)

theorem relativeIndentation_nest (line : Line) :
    (state.nest frame name).relativeIndentation line = state.relativeIndentation line := by
  have base : (state.nest frame name).body?.map Body.base = state.body?.map Body.base :=
    Option.map_map _ _ _
  rw [relativeIndentation, relativeIndentation, base]

theorem checkIndentation_nest (line : Line) :
    (state.nest frame name).checkIndentation line = state.checkIndentation line := by
  have isSome : (state.nest frame name).body?.isSome = state.body?.isSome := Option.isSome_map
  rw [checkIndentation, checkIndentation, isSome, relativeIndentation_nest]

theorem body_nest : (state.nest frame name).body = state.body.map (Body.rename name) := by
  have body? : (state.nest frame name).body? = state.body?.map (Body.rename name) := rfl
  rw [body, body, body?]
  cases state.body? <;> rfl

theorem addBlank_nest (line : Line) (isLast : Bool) :
    (state.nest frame name).addBlank line isLast =
      (state.addBlank line isLast).map (nest frame name) := by
  have body? : (state.nest frame name).body? = state.body?.map (Body.rename name) := rfl
  rw [addBlank, addBlank]
  split
  · rfl
  · rw [body?]
    cases state.body? with
    | none => rfl
    | some body => exact bind_eq_map (body.addPiece_rename name _) fun grown _ => rfl

theorem addText_nest (line : Line) (isLast : Bool) :
    (state.nest frame name).addText line isLast =
      (state.addText line isLast).map (nest frame name) := by
  have body? : (state.nest frame name).body? = state.body?.map (Body.rename name) := rfl
  have inserting : (state.nest frame name).insideInsert = state.insideInsert := rfl
  have replacements : (state.nest frame name).replacements = state.replacements := rfl
  rw [addText, addText, body?, inserting, relativeIndentation_nest, replacements]
  cases state.body? with
  | none => rfl
  | some body =>
      dsimp only [Option.map_some]
      split
      · rfl
      · exact bind_eq_map_right fun indentation _ =>
          bind_eq_map (body.addLine_rename name _) fun grown _ => rfl

/-- Inside the definition directives are entered as in a single template. -/
theorem enter_nest (single : state.mode = .single) (line : Line) (directive : Directive) :
    (state.nest frame name).enter line directive =
      (state.enter line directive).map (nest frame name) := by
  have inner : (state.nest frame name).expectsDefine = false := rfl
  have outer : state.expectsDefine = false := by rw [expectsDefine, single]; rfl
  have inserting : (state.nest frame name).insideInsert = state.insideInsert := rfl
  have replacements : (state.nest frame name).replacements = state.replacements := rfl
  rw [enter, enter, inner, outer, inserting, relativeIndentation_nest, body_nest, replacements]
  simp only [Bool.false_and, Bool.false_eq_true, if_false]
  split
  · rfl
  · split
    · rfl
    · exact bind_eq_map rfl fun grown _ => rfl
  · split
    · rfl
    · split
      · rfl
      · exact bind_eq_map rfl fun grown _ => rfl
  · split
    · rfl
    · exact bind_eq_map_right fun indentation _ => bind_eq_map rfl fun grown _ => rfl

theorem enterAll_nest (single : state.mode = .single) (line : Line) (directives : List Directive) :
    (state.nest frame name).enterAll line directives =
      (state.enterAll line directives).map (nest frame name) := by
  induction directives generalizing state with
  | nil => rfl
  | cons directive rest ih =>
      rw [enterAll, enterAll]
      refine bind_eq_map (enter_nest frame name state single line directive) fun next entered => ?_
      exact ih { next with depth := next.depth + 1 } ((enter_keeps entered).mode.trans single)

theorem closeRegion_nest :
    (state.nest frame name).closeRegion = state.closeRegion.map (nest frame name) := by
  rw [closeRegion, closeRegion, body_nest]
  exact bind_eq_map rfl fun grown _ => rfl

/-- Inside the definition the region of a directive that is no definition closes as in a single template. -/
theorem exit_nest (source : Text) {directive : Directive} (notDefine : directive.isDefine = false) :
    (state.nest frame name).exit source directive =
      (state.exit source directive).map (nest frame name) := by
  have replacements : (state.nest frame name).replacements = state.replacements := rfl
  cases instruction : directive.instruction with
  | define text => simp [Directive.isDefine, instruction, Instruction.keyword] at notDefine
  | replace text field flags =>
      rw [exit, exit, instruction, replacements]
      dsimp only
      split
      · rfl
      · exact closeRegion_nest frame name { state with replacements := state.replacements.dropLast }
  | foreach item collection =>
      rw [exit, exit, instruction]
      exact closeRegion_nest frame name state
  | insert field =>
      rw [exit, exit, instruction]
      exact closeRegion_nest frame name { state with insideInsert := false }

variable {state} {opened : List Directive}

/-- A single template has no open definition. -/
theorem Settled.undefined (settled : state.Settled opened) (single : state.mode = .single) :
    ∀ directive ∈ opened, directive.isDefine = false := by
  cases settled with
  | outside outside _ => exact absurd (single.symm.trans outside.hasMode) nofun
  | inside stands =>
      intro directive member
      obtain ⟨before, after, same⟩ := List.append_of_mem member
      refine Bool.eq_false_iff.2 fun defines => ?_
      exact nomatch single.symm.trans ((stands.admitted before directive after same).defines.1 defines).1

/-- Inside the definition the regions that opened last close as in a single template. -/
theorem Settled.exitAll_nest {directives : List Directive}
    (settled : state.Settled (opened ++ directives)) (single : state.mode = .single) (source : Text) :
    (state.nest frame name).exitAll source directives.reverse =
      (state.exitAll source directives.reverse).map (nest frame name) := by
  induction directives using List.reverseRecOn generalizing state with
  | nil => rfl
  | append_singleton directives directive ih =>
      have notDefine := settled.undefined single directive (by simp)
      rw [← List.append_assoc] at settled
      cases settled with
      | outside _ none => simp at none
      | inside stands =>
          obtain ⟨middle, exited, settledMiddle⟩ := stands.exit_ok source
          have depth : state.depth = (opened ++ directives).length + 1 := by
            rw [stands.depth, List.length_append, List.length_singleton]
          have higher : { state.nest frame name with depth := (state.nest frame name).depth - 1 } =
              nest frame name { state with depth := (opened ++ directives).length } := by
            simp [nest, depth]
          have below : (state.nest frame name).depth ≠ 0 := Nat.succ_ne_zero _
          rw [List.reverse_concat, exitAll, exitAll, if_neg below,
            if_neg (by rw [depth]; exact Nat.succ_ne_zero _), higher, depth, Nat.add_sub_cancel,
            exit_nest frame name _ source notDefine, exited]
          exact ih settledMiddle ((exit_keeps exited).mode.trans single)

/-- Inside the definition a line does what it does in a single template, unless it closes a region there
that is not open. -/
theorem Coherent.step_nest (coherent : state.Coherent) (single : state.mode = .single) {source : Text}
    {line : Line} {isLast : Bool}
    (balanced : ∀ stop, state.step source line isLast = .error stop → ¬stop.Unbalanced) :
    (state.nest frame name).step source line isLast =
      (state.step source line isLast).map (nest frame name) := by
  rw [step, step]
  cases kind : line.kind with
  | empty => exact addBlank_nest frame name state line isLast
  | regular => exact addText_nest frame name state line isLast
  | opening => exact addText_nest frame name (state.pushFrame line []) line isLast
  | directives start tokens =>
      refine bind_eq_map_right fun directives _ => ?_
      rw [checkIndentation_nest]
      refine bind_eq_map_right fun _ _ => ?_
      exact bind_eq_map (enterAll_nest frame name state single line directives) fun next _ => rfl
  | closing =>
      have frames : (state.nest frame name).frames = state.frames ++ [frame] := rfl
      cases same : state.frames with
      | nil =>
          have stray : state.step source line isLast =
              .error (.refused (.structural ⟨line.number, line.indentation⟩ .strayEnd)) := by
            rw [step, kind]
            dsimp only
            rw [same]
          exact absurd ⟨_, .inl rfl⟩ (balanced _ stray)
      | cons inner rest =>
          rw [frames, same, List.cons_append]
          dsimp only
          split
          · exact addText_nest frame name { state with frames := rest } line isLast
          · have settled := coherent.withFrames rest
            rw [opened_cons same] at settled
            refine (congrArg (· >>= _)
              (checkIndentation_nest frame name { state with frames := rest } line)).trans ?_
            exact bind_eq_map_right fun _ _ => settled.exitAll_nest frame name single source

/-- Inside the definition a run does what it does in a single template, unless a line closes a region there
that is not open. -/
theorem Coherent.run_nest (coherent : state.Coherent) (single : state.mode = .single) {source : Text}
    {lines : List Line} (formed : ∀ line ∈ lines, line.Formed ∧ line.Sliced source) {atEnd : Bool}
    (balanced : ∀ stop, state.run source atEnd lines = .error stop → ¬stop.Unbalanced) :
    (state.nest frame name).run source atEnd lines =
      (state.run source atEnd lines).map (nest frame name) := by
  induction lines generalizing state with
  | nil => rfl
  | cons line rest ih =>
      obtain ⟨⟨formedLine, sliced⟩, others⟩ := List.forall_mem_cons.1 formed
      rw [run, run]
      refine bind_eq_map (coherent.step_nest frame name single fun stop failure => ?_)
        fun next success => ih ?_ ((step_mode success).trans single) others fun stop failure => ?_
      · exact balanced stop (by rw [run, failure]; rfl)
      · exact (coherent.step_safe formedLine sliced _).effect next success
      · exact balanced stop (by rw [run, success]; exact failure)

end

end State

end Assembly

end Stencil
