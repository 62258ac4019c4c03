/-
This file shows what the last line of a text leaves out: the line break behind it. All lines before it have
theirs.
-/
import Stencil.Proofs.Assembly.Run
import Stencil.Proofs.Line.Pieces
import Stencil.Proofs.Outcome

namespace Stencil.Assembly

/-- Some pieces with a line break behind the line that comes last. The break is a piece of its own behind a
blank line, and otherwise the last piece has it. -/
def breakAfter : Option Line → List Piece → List Piece
  | none, pieces => pieces
  | some line, pieces =>
      if line.kind = .empty then pieces ++ [⟨line.start, [], none, true, none⟩] else endLine pieces

theorem endLine_endLine (pieces : List Piece) : endLine (endLine pieces) = endLine pieces := by
  rcases List.eq_nil_or_concat pieces with rfl | ⟨before, last, rfl⟩
  · rfl
  · rw [List.concat_eq_append, endLine_concat, endLine_concat]

theorem endLine_breakAfter (line : Line) (pieces : List Piece) :
    endLine (breakAfter (some line) pieces) = breakAfter (some line) pieces := by
  rw [breakAfter]
  split
  · exact endLine_concat _ _
  · exact endLine_endLine pieces

namespace Body

def breakAfter (line? : Option Line) (body : Body) : Body :=
  { body with pieces := (Assembly.breakAfter line? body.pieces.toList).toArray }

/-- The last piece of the body ends its line. -/
def ended (body : Body) : Body := { body with pieces := (endLine body.pieces.toList).toArray }

theorem addPiece_ended (body : Body) (piece : Piece) :
    body.addPiece { piece with startsNewLine := true } = (body.addPiece piece).map ended := by
  rw [addPiece, addPiece]
  dsimp only
  split
  · rfl
  · rw [Except.map, ended]
    dsimp only
    rw [Array.toList_push, endLine_concat, ← Array.toList_push]

theorem addSite_ended (body : Body) (boundary : Nat) :
    body.ended.addSite boundary = (body.addSite boundary).map ended := by
  have size : body.ended.pieces.size = body.pieces.size := by simp [ended, endLine_length]
  have empty : body.ended.pieces.isEmpty = body.pieces.isEmpty := by
    rw [Array.isEmpty, Array.isEmpty, size]
  have boundaries : body.ended.boundaries = body.boundaries := rfl
  rw [addSite, addSite, empty, size, boundaries]
  split
  · rfl
  · split <;> rfl

/-- If the last of some pieces ends its line, so does the last piece of the body behind them. -/
theorem addLine_endLine (body : Body) {pieces : List Piece} {boundaries : List (Option Nat)}
    (nonempty : pieces ≠ []) (same : pieces.length = boundaries.length) :
    body.addLine ((endLine pieces).zip boundaries) =
      (body.addLine (pieces.zip boundaries)).map ended := by
  induction pieces generalizing body boundaries with
  | nil => exact absurd rfl nonempty
  | cons piece rest ih =>
      obtain ⟨boundary?, others, rfl⟩ := List.exists_cons_of_length_eq_add_one same.symm
      cases rest with
      | nil =>
          cases others with
          | cons => simp at same
          | nil =>
              refine bind_eq_map (body.addPiece_ended piece) fun grown _ => ?_
              cases boundary? with
              | none => rfl
              | some boundary => exact bind_eq_map (grown.addSite_ended boundary) fun _ _ => rfl
      | cons second more =>
          refine bind_eq_map_right fun grown _ => ?_
          have later (body : Body) :=
            @ih body others (List.cons_ne_nil second more) (Nat.succ.inj same)
          cases boundary? with
          | none => exact later grown
          | some boundary => exact bind_eq_map_right fun last _ => later last

end Body

namespace State

def breakAfter (line? : Option Line) (state : State) : State :=
  { state with body? := state.body?.map (Body.breakAfter line?) }

/-- The pieces of the body end with a line break, if there are any. -/
def Ended (state : State) : Prop :=
  ∀ body, state.body? = some body → endLine body.pieces.toList = body.pieces.toList

section

variable {source : Text} {state next : State} {line : Line}

theorem ended_breakAfter (line : Line) (state : State) : (state.breakAfter (some line)).Ended := by
  intro body same
  obtain ⟨before, _, rfl⟩ := Option.map_eq_some_iff.1 same
  exact endLine_breakAfter line before.pieces.toList

theorem breakAfter_none (state : State) : state.breakAfter none = state := by
  have same : (Body.breakAfter none : Body → Body) = id := rfl
  rw [breakAfter, same, Option.map_id]
  rfl

/-- Outside a body there is nothing to add. -/
theorem breakAfter_outside (hasBody : state.body? = none) (line? : Option Line) :
    state.breakAfter line? = state := by
  rw [breakAfter, hasBody, Option.map_none, ← hasBody]

theorem breakAfter_withBody (notEmpty : line.kind ≠ .empty) (state : State) (body : Body) :
    (state.withBody body).breakAfter (some line) = state.withBody body.ended := by
  simp [breakAfter, withBody, Body.breakAfter, Assembly.breakAfter, notEmpty, Body.ended]

/-- There is nothing to add behind a line that left no text. -/
theorem Ended.breakAfter_eq (ended : state.Ended) (notEmpty : line.kind ≠ .empty) :
    state.breakAfter (some line) = state := by
  have same : state.body?.map (Body.breakAfter (some line)) = state.body? := by
    cases hasBody : state.body? with
    | none => rfl
    | some body =>
        rw [Option.map_some, Body.breakAfter, Assembly.breakAfter, if_neg notEmpty,
          ended body hasBody, Array.toArray_toList]
  rw [breakAfter, same]

/-- An outcome without text has nothing to add behind it. -/
theorem eq_map_breakAfter {outcome : Except Stop State} (notEmpty : line.kind ≠ .empty)
    (ended : ∀ next, outcome = .ok next → next.Ended) :
    outcome = outcome.map (breakAfter (some line)) := by
  cases outcome with
  | error stop => rfl
  | ok next => exact congrArg Except.ok ((ended next rfl).breakAfter_eq notEmpty).symm

theorem Ended.enter (ended : state.Ended) {directive : Directive}
    (success : state.enter line directive = .ok next) : next.Ended := by
  cases enter_ok success with
  | define =>
      rintro _ ⟨⟩
      rfl
  | foreach _ _ _ hasBody | replace _ _ _ _ hasBody | insert _ _ _ _ hasBody =>
      have before := ended _ hasBody
      rintro _ ⟨⟩
      exact before

theorem Ended.enterAll (ended : state.Ended) {directives : List Directive}
    (success : state.enterAll line directives = .ok next) : next.Ended := by
  induction directives generalizing state with
  | nil =>
      cases success
      exact ended
  | cons directive rest ih =>
      obtain ⟨middle, entered, others⟩ := bind_ok success
      have endedMiddle := ended.enter entered
      exact @ih { middle with depth := middle.depth + 1 } endedMiddle others

theorem Ended.exit (ended : state.Ended) {directive : Directive}
    (success : state.exit source directive = .ok next) : next.Ended := by
  cases exit_ok success with
  | define => exact fun body hasBody => nomatch hasBody
  | replace _ _ hasBody | foreach _ hasBody | insert _ hasBody =>
      have before := ended _ hasBody
      rintro _ ⟨⟩
      exact before

theorem Ended.exitAll (ended : state.Ended) {directives : List Directive}
    (success : state.exitAll source directives = .ok next) : next.Ended := by
  induction directives generalizing state with
  | nil =>
      cases success
      exact ended
  | cons directive rest ih =>
      obtain ⟨middle, _, exited, others⟩ := exitAll_cons_ok success
      have endedLess : State.Ended { state with depth := state.depth - 1 } := ended
      exact ih (endedLess.exit exited) others

/-- A blank line that is not the last adds its line break. -/
theorem addBlank_break (state : State) (empty : line.kind = .empty) :
    state.addBlank line false = (state.addBlank line true).map (breakAfter (some line)) := by
  have last : state.addBlank line true = .ok state := rfl
  rw [last, addBlank, if_neg Bool.false_ne_true]
  cases hasBody : state.body? with
  | none => rw [Except.map, breakAfter_outside hasBody]
  | some body =>
      rw [Except.map, breakAfter, hasBody, Option.map_some, Body.breakAfter, Assembly.breakAfter,
        if_pos empty, ← Array.toList_push]
      rfl

/-- The last piece of a line of text that is not the last ends its line. -/
theorem Ended.addText_break (ended : state.Ended) (formed : line.Formed)
    (notEmpty : line.kind ≠ .empty) :
    state.addText line false = (state.addText line true).map (breakAfter (some line)) := by
  rw [addText, addText]
  cases hasBody : state.body? with
  | none => rw [Except.map, ended.breakAfter_eq notEmpty]
  | some body =>
      dsimp only
      split
      · rw [Except.map, ended.breakAfter_eq notEmpty]
      · refine bind_eq_map_right fun indentation _ => ?_
        have inside := formed.indentation_lt notEmpty
        have tile := Segment.ofLine_tile state.replacements line.text.toArray line.indentation
          (by simpa using Nat.le_of_lt inside)
        have nonempty := tile.ne_nil (by simpa using inside)
        refine bind_eq_map (body.addLine_endLine ?_ ?_) fun grown _ => ?_
        · rw [← List.length_pos_iff, startLine_length, List.length_map]
          exact List.length_pos_iff.2 nonempty
        · rw [startLine_length, List.length_map, List.length_map]
        · exact congrArg Except.ok (breakAfter_withBody notEmpty state grown).symm

/-- A line that is not the last has a line break behind it. -/
theorem Ended.step_break (ended : state.Ended) (formed : line.Formed) (source : Text) :
    state.step source line false =
      (state.step source line true).map (breakAfter (some line)) := by
  rw [step, step]
  cases kind : line.kind with
  | empty => exact addBlank_break state kind
  | regular => exact ended.addText_break formed (by simp [kind])
  | opening => exact Ended.addText_break ended formed (by simp [kind])
  | directives start tokens =>
      refine eq_map_breakAfter (by simp [kind]) fun next success => ?_
      obtain ⟨directives, _, rest⟩ := bind_ok success
      obtain ⟨_, _, rest⟩ := bind_ok rest
      obtain ⟨entered, opened, same⟩ := bind_ok rest
      cases same
      have endedEntered := ended.enterAll opened
      exact endedEntered
  | closing =>
      cases state.frames with
      | nil => rfl
      | cons frame frames =>
          dsimp only
          split
          · exact Ended.addText_break ended formed (by simp [kind])
          · refine eq_map_breakAfter (by simp [kind]) fun next success => ?_
            obtain ⟨_, _, exited⟩ := bind_ok success
            exact @Ended.exitAll _ { state with frames } _ ended _ exited

/-- A run that does not reach the end of the text has a line break behind its last line. -/
theorem Ended.run_break (ended : state.Ended) {lines : List Line}
    (formed : ∀ line ∈ lines, line.Formed) (source : Text) :
    state.run source false lines =
      (state.run source true lines).map (breakAfter lines.getLast?) := by
  induction lines generalizing state with
  | nil => exact congrArg Except.ok state.breakAfter_none.symm
  | cons line rest ih =>
      obtain ⟨formedLine, others⟩ := List.forall_mem_cons.1 formed
      rw [run, run, Bool.false_and, Bool.true_and]
      cases rest with
      | nil => exact bind_eq_map (ended.step_break formedLine source) fun _ _ => rfl
      | cons second more =>
          rw [List.isEmpty_cons, List.getLast?_cons_cons]
          refine bind_eq_map_right fun next success => ih ?_ others
          rw [ended.step_break formedLine source] at success
          obtain ⟨before, _, rfl⟩ := map_ok success
          exact ended_breakAfter line before

theorem ended_single : single.Ended := by
  intro body same
  cases same
  rfl

end

end State

end Stencil.Assembly
