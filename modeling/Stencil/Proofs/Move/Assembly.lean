/-
This file shows that the assembly of moved lines is the moved assembly: templates, bodies, frames and states
move with the lines that they come from.
-/
import Stencil.Proofs.Assembly.Run
import Stencil.Proofs.Line.Pieces
import Stencil.Proofs.Move.Directive
import Stencil.Proofs.Move.Line
import Stencil.Proofs.Template.Set

namespace Stencil.Move

open Assembly

variable (move : Move)

def body (body : Body) : Body := { body with pieces := body.pieces.map move.piece }

def frame (frame : Frame) : Frame :=
  { frame with line := frame.line + move.down, directives := frame.directives.map move.directive }

/-- A state moves into another source. -/
def state (source : Text) (state : State) : State :=
  { state with
    body? := state.body?.map move.body
    finished := state.finished.map (move.template source)
    frames := state.frames.map move.frame }

theorem piece_moved (line : Line) (segment : Segment) :
    segment.piece (move.line line) = move.piece (segment.piece line) := by
  have span (start stop : Nat) : Segment.lineSpan (move.line line) start stop =
      (Segment.lineSpan line start stop).shift move.right := by
    simp [Segment.lineSpan, Span.shift, Move.line, Nat.add_right_comm]
  have groups : segment.groups? (move.line line) = (segment.groups? line).map
      (List.map (Option.map fun span => span.shift move.right)) := by
    cases segment with
    | plain => rfl
    | site boundary found =>
        simp [Segment.groups?, span, Function.comp_def]
  rw [Segment.piece, Segment.piece, groups, span]
  rfl

theorem startLine_moved (indentation : Nat) (pieces : List Piece) :
    startLine indentation (pieces.map move.piece) = (startLine indentation pieces).map move.piece := by
  cases pieces <;> rfl

theorem endLine_moved (pieces : List Piece) :
    endLine (pieces.map move.piece) = (endLine pieces).map move.piece := by
  fun_induction endLine pieces with
  | case1 => rfl
  | case2 piece => rfl
  | case3 piece rest more ih =>
      cases rest with
      | nil => exact absurd rfl more
      | cons second others =>
          rw [List.map_cons, List.map_cons, endLine, ← List.map_cons, ih, List.map_cons]
          exact List.cons_ne_nil _ _

theorem openRegion_moved (body : Body) (region : Region) :
    (move.body body).openRegion region = move.body (body.openRegion region) := by
  simp [Body.openRegion, Move.body]

theorem closeRegion_moved (body : Body) : (move.body body).closeRegion = move.body body.closeRegion := by
  simp [Body.closeRegion, Move.body]

/-- A body without pieces does not move. -/
theorem body_empty (name : Text) (base : Nat) :
    move.body ⟨name, base, #[], #[], 0⟩ = ⟨name, base, #[], #[], 0⟩ := by
  simp [Move.body]

theorem addPiece_moved (body : Body) (piece : Piece) :
    (move.body body).addPiece (move.piece piece) =
      bimap move.stop move.body (body.addPiece piece) := by
  have text : (move.piece piece).text = piece.text := rfl
  rw [Body.addPiece, Body.addPiece, text]
  split
  · rfl
  · simp [bimap, Move.body]

theorem addSite_moved (body : Body) (boundary : Nat) :
    (move.body body).addSite boundary = bimap move.stop move.body (body.addSite boundary) := by
  have empty : (move.body body).pieces.isEmpty = body.pieces.isEmpty := by
    simp [Move.body, Array.isEmpty]
  have size : (move.body body).pieces.size = body.pieces.size := by simp [Move.body]
  have boundaries : (move.body body).boundaries = body.boundaries := rfl
  rw [Body.addSite, Body.addSite, empty, size, boundaries]
  split
  · rfl
  · split <;> rfl

theorem addLine_moved (body : Body) (entries : List (Piece × Option Nat)) :
    (move.body body).addLine (entries.map (Prod.map move.piece id)) =
      bimap move.stop move.body (body.addLine entries) := by
  induction entries generalizing body with
  | nil => rfl
  | cons entry rest ih =>
      obtain ⟨piece, boundary?⟩ := entry
      rw [List.map_cons, Prod.map, Body.addLine, Body.addLine]
      refine bimap_bind (move.addPiece_moved body piece) fun grown _ => ?_
      cases boundary? with
      | none => exact ih grown
      | some boundary => exact bimap_bind (move.addSite_moved grown boundary) fun last _ => ih last

section

variable (source : Text) (state : State) (line : Line)

theorem relativeIndentation_moved :
    (move.state source state).relativeIndentation (move.line line) =
      bimap move.stop id (state.relativeIndentation line) := by
  have base : (((move.state source state).body?.map Body.base).getD 0) =
      (state.body?.map Body.base).getD 0 := by
    rw [Move.state, Option.map_map]
    rfl
  have indentation : (move.line line).indentation = line.indentation := rfl
  rw [State.relativeIndentation, State.relativeIndentation, base, indentation]
  split <;> rfl

theorem checkIndentation_moved :
    (move.state source state).checkIndentation (move.line line) =
      bimap move.stop id (state.checkIndentation line) := by
  have isSome : (move.state source state).body?.isSome = state.body?.isSome := Option.isSome_map
  rw [State.checkIndentation, State.checkIndentation, isSome]
  split
  · exact bimap_bind (move.relativeIndentation_moved source state line) fun _ _ => rfl
  · rfl

theorem addBlank_moved (isLast : Bool) :
    (move.state source state).addBlank (move.line line) isLast =
      bimap move.stop (move.state source) (state.addBlank line isLast) := by
  rw [State.addBlank, State.addBlank]
  split
  · rfl
  · have body? : (move.state source state).body? = state.body?.map move.body := rfl
    rw [body?]
    cases state.body? with
    | none => rfl
    | some body =>
        exact bimap_bind (move.addPiece_moved body ⟨line.start, [], none, true, none⟩)
          fun grown _ => rfl

theorem addText_moved (isLast : Bool) :
    (move.state source state).addText (move.line line) isLast =
      bimap move.stop (move.state source) (state.addText line isLast) := by
  rw [State.addText, State.addText]
  have body? : (move.state source state).body? = state.body?.map move.body := rfl
  rw [body?]
  cases found : state.body? with
  | none => rfl
  | some body =>
      dsimp only [Option.map_some]
      have inserting : (move.state source state).insideInsert = state.insideInsert := rfl
      rw [inserting]
      split
      · rfl
      · refine bimap_bind (move.relativeIndentation_moved source state line) fun indentation _ => ?_
        have segments : Segment.ofLine (move.state source state).replacements
            (move.line line).text.toArray (move.line line).indentation =
              Segment.ofLine state.replacements line.text.toArray line.indentation := rfl
        rw [segments]
        have pieces : (Segment.ofLine state.replacements line.text.toArray line.indentation).map
            (Segment.piece (move.line line)) =
              ((Segment.ofLine state.replacements line.text.toArray line.indentation).map
                (Segment.piece line)).map move.piece := by
          rw [List.map_map]
          exact List.map_congr_left fun segment _ => move.piece_moved line segment
        have entries (pieces : List Piece) (boundaries : List (Option Nat)) :
            (if isLast then startLine indentation (pieces.map move.piece)
              else endLine (startLine indentation (pieces.map move.piece))).zip boundaries =
                ((if isLast then startLine indentation pieces
                  else endLine (startLine indentation pieces)).zip boundaries).map
                    (Prod.map move.piece id) := by
          rw [startLine_moved, endLine_moved, ← List.zip_map_left]
          split <;> rfl
        refine bimap_bind ?_ fun grown _ => rfl
        dsimp only [id]
        rw [pieces, entries]
        exact move.addLine_moved body _

theorem body_moved :
    (move.state source state).body = bimap move.stop move.body state.body := by
  rw [State.body, State.body]
  have body? : (move.state source state).body? = state.body?.map move.body := rfl
  rw [body?]
  cases state.body? <;> rfl

/-- A moved directive enters a moved state as the directive enters the state. -/
theorem enter_moved (directive : Directive) :
    (move.state source state).enter (move.line line) (move.directive directive) =
      bimap move.stop (move.state source) (state.enter line directive) := by
  have expects : (move.state source state).expectsDefine = state.expectsDefine := rfl
  have inserting : (move.state source state).insideInsert = state.insideInsert := rfl
  have instruction : (move.directive directive).instruction = directive.instruction := rfl
  have held (name : Text) :
      (move.state source state).finished.contains name = state.finished.contains name :=
    TemplateSet.contains_map _ _ name
  have opened (grown : Body) (region : Region) :
      (move.state source state).withBody ((move.body grown).openRegion region) =
        move.state source (state.withBody (grown.openRegion region)) := by
    rw [openRegion_moved]
    rfl
  rw [State.enter, State.enter, expects, instruction]
  split
  · rfl
  · split
    · rw [held]
      split
      · rfl
      · split
        · rfl
        · split
          · rfl
          · next name _ _ _ _ =>
              rw [← move.body_empty name]
              rfl
    · rw [inserting]
      split
      · rfl
      · refine bimap_bind (move.body_moved source state) fun grown _ => ?_
        rw [opened]
        rfl
    · rw [inserting]
      split
      · rfl
      · split
        · rfl
        · refine bimap_bind (move.body_moved source state) fun grown _ => ?_
          rw [opened]
          rfl
    · rw [inserting]
      split
      · rfl
      · refine bimap_bind (move.relativeIndentation_moved source state line) fun indentation _ => ?_
        refine bimap_bind (move.body_moved source state) fun grown _ => ?_
        rw [id, opened]
        rfl

theorem enterAll_moved (directives : List Directive) :
    (move.state source state).enterAll (move.line line) (directives.map move.directive) =
      bimap move.stop (move.state source) (state.enterAll line directives) := by
  induction directives generalizing state with
  | nil => rfl
  | cons directive rest ih =>
      rw [List.map_cons, State.enterAll, State.enterAll]
      refine bimap_bind (move.enter_moved source state line directive) fun next _ => ?_
      exact ih { next with depth := next.depth + 1 }

theorem closeRegion_state_moved :
    (move.state source state).closeRegion =
      bimap move.stop (move.state source) state.closeRegion := by
  refine bimap_bind (move.body_moved source state) fun grown _ => ?_
  rw [closeRegion_moved]
  rfl

/-- A moved directive leaves a moved state in another source as the directive leaves the state. -/
theorem exit_moved (other : Text) (directive : Directive) :
    (move.state source state).exit source (move.directive directive) =
      bimap move.stop (move.state source) (state.exit other directive) := by
  have instruction : (move.directive directive).instruction = directive.instruction := rfl
  have replacements : (move.state source state).replacements = state.replacements := rfl
  rw [State.exit, State.exit, instruction]
  split
  · next name _ =>
      rw [replacements]
      split
      · rfl
      · refine bimap_bind (move.body_moved source state) fun grown _ => ?_
        have finished := TemplateSet.insert_map (move.template source) state.finished name
          (grown.template other)
        change Except.ok { move.state source state with
          body? := none
          finished := (state.finished.map (move.template source)).insert name
            (move.template source (grown.template other)) } = _
        rw [finished]
        rfl
  · rw [replacements]
    split
    · rfl
    · exact move.closeRegion_state_moved source
        { state with replacements := state.replacements.dropLast }
  · exact move.closeRegion_state_moved source state
  · exact move.closeRegion_state_moved source { state with insideInsert := false }

theorem exitAll_moved (other : Text) (directives : List Directive) :
    (move.state source state).exitAll source (directives.map move.directive) =
      bimap move.stop (move.state source) (state.exitAll other directives) := by
  induction directives generalizing state with
  | nil => rfl
  | cons directive rest ih =>
      have depth : (move.state source state).depth = state.depth := rfl
      rw [List.map_cons, State.exitAll, State.exitAll, depth]
      split
      · rfl
      · exact bimap_bind (move.exit_moved source { state with depth := state.depth - 1 } other directive)
          fun next _ => ih next

/-- A moved state steps over a moved line as the state steps over the line. -/
theorem step_moved (other : Text) (isLast : Bool) :
    (move.state source state).step source (move.line line) isLast =
      bimap move.stop (move.state source) (state.step other line isLast) := by
  rw [State.step, State.step]
  cases kind : line.kind with
  | empty =>
      have moved : (move.line line).kind = .empty := congrArg move.kind kind
      rw [moved]
      exact move.addBlank_moved source state line isLast
  | regular =>
      have moved : (move.line line).kind = .regular := congrArg move.kind kind
      rw [moved]
      exact move.addText_moved source state line isLast
  | opening =>
      have moved : (move.line line).kind = .opening := congrArg move.kind kind
      rw [moved]
      exact move.addText_moved source (state.pushFrame line []) line isLast
  | directives start tokens =>
      have moved : (move.line line).kind =
          .directives (start + move.right) (tokens.map move.token) := congrArg move.kind kind
      rw [moved]
      refine bimap_bind (move.parse_moved line.number line.start tokens) fun directives _ => ?_
      refine bimap_bind (move.checkIndentation_moved source state line) fun _ _ => ?_
      exact bimap_bind (move.enterAll_moved source state line directives) fun next _ => rfl
  | closing =>
      have moved : (move.line line).kind = .closing := congrArg move.kind kind
      have frames : (move.state source state).frames = state.frames.map move.frame := rfl
      rw [moved, frames]
      cases found : state.frames with
      | nil => rfl
      | cons frame rest =>
          have empty : (move.frame frame).directives.isEmpty = frame.directives.isEmpty :=
            List.isEmpty_map
          rw [List.map_cons]
          dsimp only
          rw [empty]
          split
          · exact move.addText_moved source { state with frames := rest } line isLast
          · refine bimap_bind (move.checkIndentation_moved source { state with frames := rest } line)
              fun _ _ => ?_
            have reversed : (move.frame frame).directives.reverse =
                frame.directives.reverse.map move.directive := List.map_reverse.symm
            rw [reversed]
            exact move.exitAll_moved source { state with frames := rest } other frame.directives.reverse

/-- A run over moved lines is the moved run. -/
theorem run_moved (other : Text) (atEnd : Bool) (lines : List Line) :
    (move.state source state).run source atEnd (lines.map move.line) =
      bimap move.stop (move.state source) (state.run other atEnd lines) := by
  induction lines generalizing state with
  | nil => rfl
  | cons line rest ih =>
      rw [List.map_cons, State.run, State.run, List.isEmpty_map]
      exact bimap_bind (move.step_moved source state line other _) fun next _ => ih next

theorem finish_state_moved :
    (move.state source state).finish = bimap move.stop (move.state source) state.finish := by
  rw [State.finish, State.finish]
  have frames : (move.state source state).frames = state.frames.map move.frame := rfl
  rw [frames]
  cases state.frames <;> rfl

end

end Stencil.Move
