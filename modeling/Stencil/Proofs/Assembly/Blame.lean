/-
This file shows which line, token or directive a walk is refused for.
-/
import Stencil.Proofs.Assembly.Run
import Stencil.Proofs.Directive.Blame

namespace Stencil

/-- A structural fault of a directive: it stands where a definition is expected or where none may stand, or its
name or its pattern is none. -/
inductive StructureFault.About (directive : Directive) : StructureFault → Prop where
  | expectedDefine (other : directive.instruction.keyword ≠ .define) :
      About directive (.expectedDefine directive.instruction.keyword)
  | misplacedDefine (define : directive.instruction.keyword = .define) : About directive .misplacedDefine
  | emptyName (define : directive.instruction = .define []) : About directive .emptyName
  | duplicateName {name : Text} (define : directive.instruction = .define name) :
      About directive (.duplicateName name)
  | insideInsert (other : directive.instruction.keyword ≠ .define) : About directive .insideInsert
  | badPattern {pattern field : Text} {flags : Flags}
      (replace : directive.instruction = .replace pattern field flags)
      (bad : Pattern.compile? pattern = none) : About directive (.badPattern pattern)

/-- A structural fault of a line: its region is not opened, is not closed, or stands left of the base. -/
inductive StructureFault.OfLine (line : Line) : StructureFault → Prop where
  | strayEnd (closes : line.closes = true) : OfLine line .strayEnd
  | neverClosed (opens : line.opens = true) : OfLine line .neverClosed
  | underIndented {base : Nat} (notEmpty : line.kind ≠ .empty) (under : line.indentation < base) :
      OfLine line (.underIndented line.indentation base)

/-- A line with a structural fault is not blank. -/
theorem StructureFault.OfLine.notEmpty {line : Line} {fault : StructureFault} (ofLine : fault.OfLine line) :
    line.kind ≠ .empty := by
  cases ofLine with
  | strayEnd closes => simp [Line.closes_iff.1 closes]
  | neverClosed opens =>
      intro kind
      rw [Line.opens, kind] at opens
      cases opens
  | underIndented notEmpty _ => exact notEmpty

/-- An error that a line is the cause of has the place of a token or of a directive of the line, or the place
behind its indentation. -/
inductive Line.Blames (line : Line) : Error → Prop where
  | token {start : Nat} {tokens : List Token} {token : Token} {fault : GrammarFault}
      (kind : line.kind = .directives start tokens) (member : token ∈ tokens) (atFault : token.AtFault fault) :
      Blames line (.grammar token.place fault)
  | directive {directives : List Directive} {directive : Directive} {fault : StructureFault}
      (opens : line.Opens directives) (member : directive ∈ directives) (about : fault.About directive) :
      Blames line (.structural ⟨directive.line, directive.column⟩ fault)
  | layout {fault : StructureFault} (ofLine : fault.OfLine line) :
      Blames line (.structural ⟨line.number, line.indentation⟩ fault)

/-- A line is refused for an error that it is the cause of. That its region is never closed is not said before the end
of the text. -/
structure Line.Refuses (line : Line) (error : Error) : Prop where
  blames : line.Blames error
  closed : ∀ place, error ≠ .structural place .neverClosed

namespace Assembly

/-- The frame is the one of a line that opens a region. -/
def Frame.IsOf (frame : Frame) (line : Line) : Prop :=
  line.opens = true ∧ frame.line = line.number ∧ frame.column = line.indentation

section

variable {cause : Error → Prop}

theorem Body.addPiece_explained (body : Body) (piece : Piece) : Explained (body.addPiece piece) cause := by
  unfold addPiece
  split
  · exact .of_broken rfl
  · exact .of_ok rfl

theorem Body.addSite_explained (body : Body) (boundary : Nat) : Explained (body.addSite boundary) cause := by
  unfold addSite
  split
  · exact .of_broken rfl
  · split
    · exact .of_ok rfl
    · exact .of_broken rfl

/-- The pieces of a line are added without a refusal. -/
theorem Body.addLine_explained (body : Body) (entries : List (Piece × Option Nat)) :
    Explained (body.addLine entries) cause := by
  induction entries generalizing body with
  | nil => exact .of_ok rfl
  | cons entry rest ih =>
      obtain ⟨piece, boundary?⟩ := entry
      refine (body.addPiece_explained piece).bind fun middle _ => ?_
      cases boundary? with
      | none => exact ih middle
      | some boundary => exact (middle.addSite_explained boundary).bind fun next _ => ih next

end

namespace State

section

variable {cause : Error → Prop} {source : Text} {state : State} {line : Line}

theorem body_explained (state : State) : Explained state.body cause := by
  unfold body
  split
  · exact .of_ok rfl
  · exact .of_broken rfl

theorem closeRegion_explained (state : State) : Explained state.closeRegion cause :=
  state.body_explained.bind fun _ _ => .of_ok rfl

/-- A region closes without a refusal. -/
theorem exit_explained (source : Text) (state : State) (directive : Directive) :
    Explained (state.exit source directive) cause := by
  unfold exit
  split
  · split
    · exact .of_broken rfl
    · exact state.body_explained.bind fun _ _ => .of_ok rfl
  · split
    · exact .of_broken rfl
    · exact closeRegion_explained _
  · exact closeRegion_explained _
  · exact closeRegion_explained _

theorem exitAll_explained (source : Text) (state : State) (directives : List Directive) :
    Explained (state.exitAll source directives) cause := by
  induction directives generalizing state with
  | nil => exact .of_ok rfl
  | cons directive rest ih =>
      unfold exitAll
      split
      · exact .of_broken rfl
      · exact (exit_explained source _ directive).bind fun next _ => ih next

theorem addBlank_explained (state : State) (line : Line) (isLast : Bool) :
    Explained (state.addBlank line isLast) cause := by
  unfold addBlank
  split
  · exact .of_ok rfl
  · split
    · exact .of_ok rfl
    · exact (Body.addPiece_explained _ _).bind fun _ _ => .of_ok rfl

/-- The indentation of a line is refused for the line. -/
theorem relativeIndentation_explained (state : State) (notEmpty : line.kind ≠ .empty) :
    Explained (state.relativeIndentation line) line.Refuses := by
  unfold relativeIndentation
  dsimp only
  split
  · exact .of_ok rfl
  · next under => exact .of_error rfl ⟨.layout (.underIndented notEmpty (Nat.not_le.1 under)), nofun⟩

theorem addText_explained (state : State) (notEmpty : line.kind ≠ .empty) (isLast : Bool) :
    Explained (state.addText line isLast) line.Refuses := by
  unfold addText
  split
  · exact .of_ok rfl
  · split
    · exact .of_ok rfl
    · refine (relativeIndentation_explained state notEmpty).bind fun _ _ => ?_
      exact (Body.addLine_explained _ _).bind fun _ _ => .of_ok rfl

theorem checkIndentation_explained (state : State) (notEmpty : line.kind ≠ .empty) :
    Explained (state.checkIndentation line) line.Refuses := by
  unfold checkIndentation
  split
  · exact (relativeIndentation_explained state notEmpty).bind fun _ _ => .of_ok rfl
  · exact .of_ok rfl

/-- A directive is refused for itself or for its line. -/
theorem enter_explained (state : State) {directives : List Directive} (opens : line.Opens directives)
    {directive : Directive} (member : directive ∈ directives) :
    Explained (state.enter line directive) line.Refuses := by
  have refused {fault : StructureFault} (about : fault.About directive) :
      Explained (@refuse State directive fault) line.Refuses :=
    .of_error rfl ⟨.directive opens member about, fun place same => by cases same; cases about⟩
  have notEmpty : line.kind ≠ .empty := (StructureFault.OfLine.neverClosed opens.opens).notEmpty
  unfold enter
  split
  · next expected =>
      rw [Bool.and_eq_true, bne_iff_ne] at expected
      exact refused (.expectedDefine expected.2)
  · split
    · next name same =>
        split
        · exact refused (.misplacedDefine (congrArg Instruction.keyword same))
        · split
          · next empty => exact refused (.emptyName (List.isEmpty_iff.1 empty ▸ same))
          · split
            · exact refused (.duplicateName same)
            · exact .of_ok rfl
    · next item collection same =>
        split
        · exact refused (.insideInsert (by rw [same]; exact nofun))
        · exact state.body_explained.bind fun _ _ => .of_ok rfl
    · next pattern field flags same =>
        split
        · exact refused (.insideInsert (by rw [same]; exact nofun))
        · split
          · next bad => exact refused (.badPattern same bad)
          · exact state.body_explained.bind fun _ _ => .of_ok rfl
    · next field same =>
        split
        · exact refused (.insideInsert (by rw [same]; exact nofun))
        · refine (relativeIndentation_explained state notEmpty).bind fun _ _ => ?_
          exact state.body_explained.bind fun _ _ => .of_ok rfl

theorem enterAll_explained (state : State) {directives entered : List Directive}
    (opens : line.Opens directives) (among : ∀ directive ∈ entered, directive ∈ directives) :
    Explained (state.enterAll line entered) line.Refuses := by
  induction entered generalizing state with
  | nil => exact .of_ok rfl
  | cons directive rest ih =>
      obtain ⟨here, later⟩ := List.forall_mem_cons.1 among
      exact (enter_explained state opens here).bind fun next _ => ih _ later

/-- A line is refused for itself, for one of its tokens or for one of its directives. -/
theorem step_explained (source : Text) (state : State) (line : Line) (isLast : Bool) :
    Explained (state.step source line isLast) line.Refuses := by
  rw [step]
  split
  · exact addBlank_explained state line isLast
  · next kind => exact addText_explained state (by simp [kind]) isLast
  · next kind => exact addText_explained _ (by simp [kind]) isLast
  · next start tokens kind =>
      have notEmpty : line.kind ≠ .empty := by simp [kind]
      refine (Directive.parse_explained line.number line.start fun token member fault atFault =>
        ⟨.token kind member atFault, fun _ same => by cases same⟩).bind fun directives parsed => ?_
      refine (checkIndentation_explained state notEmpty).bind fun _ _ => ?_
      exact (enterAll_explained state (.directed kind parsed) fun _ member => member).bind fun _ _ => .of_ok rfl
  · next kind =>
      have notEmpty : line.kind ≠ .empty := by simp [kind]
      split
      · exact .of_error rfl ⟨.layout (.strayEnd (Line.closes_iff.2 kind)), fun _ same => by cases same⟩
      · split
        · exact addText_explained _ notEmpty isLast
        · refine (checkIndentation_explained _ notEmpty).bind fun _ _ => ?_
          exact exitAll_explained source _ _

/-- A walk to the end of the text is refused for one of its lines. Each frame that is open before it is one of a
line that is known. -/
theorem walk_finish_explained (source : Text) {state : State} {lines known : List Line}
    (among : ∀ line ∈ lines, line ∈ known)
    (framed : ∀ frame ∈ state.frames, ∃ line ∈ known, frame.IsOf line) :
    Explained (state.walk source lines >>= finish) fun error => ∃ line ∈ known, line.Blames error := by
  -- A frame that is open at the end may be of any line before it, so the known lines stay while those ahead are
  -- walked over.
  induction lines generalizing state with
  | nil =>
      change Explained state.finish _
      unfold finish
      split
      · exact .of_ok rfl
      · next frame frames same =>
          obtain ⟨line, member, opens, number, column⟩ := framed frame (same ▸ List.mem_cons_self)
          refine .of_error rfl ⟨line, member, ?_⟩
          rw [number, column]
          exact .layout (.neverClosed opens)
  | cons line rest ih =>
      obtain ⟨here, later⟩ := List.forall_mem_cons.1 among
      rw [walk, bind_assoc]
      refine Explained.bind ?_ fun next stepped => ih later fun frame member => ?_
      · exact fun error failure => ⟨line, here, (step_explained source state line rest.isEmpty error failure).blames⟩
      · rcases step_frames stepped with ⟨directives, opens, deeper⟩ | ⟨_, closed, higher⟩ | ⟨_, level⟩
        · rw [deeper] at member
          rcases List.mem_cons.1 member with rfl | before
          · exact ⟨line, here, opens.opens, rfl, rfl⟩
          · exact framed frame before
        · exact framed frame (higher ▸ .tail _ member)
        · exact framed frame (level ▸ member)

end

end State

end Assembly

end Stencil
