/-
This file shows that the lines of a moved text are the moved lines of the text.
-/
import Stencil.Line.Classify
import Stencil.Proofs.Move.Basic
import Stencil.Proofs.Token.Scan

namespace Stencil.Move

variable (move : Move)

/-- The tokens of a moved directive text are the moved tokens. -/
theorem scan_moved (line column start : Nat) (text : Text) :
    Token.scan (line + move.down) column (start + move.right) text =
      bimap move.error (List.map move.token) (Token.scan line column start text) :=
  @Token.scan_displaced line move.down 0 move.right move.error move.token (fun _ _ => rfl)
    (fun _ _ _ _ => rfl) column start text

/-- A draft moves with its line. -/
def draft (draft : Line.Draft) : Line.Draft :=
  { draft with number := draft.number + move.down, start := draft.start + move.right }

theorem next_moved (draft : Line.Draft) : (move.draft draft).next = move.draft draft.next := by
  simp [Line.Draft.next, Move.draft, Nat.add_right_comm]

theorem kind_moved (recogniser : Recogniser) (draft : Line.Draft) :
    (move.draft draft).kind recogniser = bimap move.error move.kind (draft.kind recogniser) := by
  have text : (move.draft draft).text = draft.text := rfl
  rw [Line.Draft.kind, Line.Draft.kind, text]
  split
  · rfl
  · rfl
  · rfl
  · next directives found =>
      have swapped : draft.start + move.right + directives.column =
          draft.start + directives.column + move.right := Nat.add_right_comm _ _ _
      dsimp only [Move.draft]
      rw [swapped, scan_moved, map_bimap, bimap_map]
      rfl

theorem finish_moved (recogniser : Recogniser) (draft : Line.Draft) :
    (move.draft draft).finish recogniser = bimap move.error move.line (draft.finish recogniser) := by
  have text : (move.draft draft).text = draft.text := rfl
  rw [Line.Draft.finish, Line.Draft.finish, text]
  split
  · rfl
  · rw [kind_moved, map_bimap, bimap_map]
    rfl

/-- The lines of a moved text are the moved lines. -/
theorem classifyFrom_moved (recogniser : Recogniser) (draft : Line.Draft) (text : Text) :
    Line.classifyFrom recogniser (move.draft draft) text =
      bimap move.error (List.map move.line) (Line.classifyFrom recogniser draft text) := by
  induction text generalizing draft with
  | nil =>
      rw [Line.classifyFrom, Line.classifyFrom]
      have size : (move.draft draft).reversed = draft.reversed := rfl
      rw [size]
      split
      · rfl
      · rw [finish_moved, map_bimap, bimap_map]
        rfl
  | cons character rest ih =>
      rw [Line.classifyFrom, Line.classifyFrom]
      split
      · rw [finish_moved]
        cases draft.finish recogniser with
        | error error => rfl
        | ok line =>
            change (Line.classifyFrom recogniser (move.draft draft).next rest).map _ =
              bimap move.error (List.map move.line)
                ((Line.classifyFrom recogniser draft.next rest).map (line :: ·))
            rw [next_moved, ih, map_bimap, bimap_map]
            rfl
      · split
        · rfl
        · exact ih (draft.push character)

end Stencil.Move
