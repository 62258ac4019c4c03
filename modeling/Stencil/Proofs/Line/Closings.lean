/-
This file holds the text of some lines that close a region each, and its lines.
-/
import Stencil.Proofs.Line.Definition
import Stencil.Proofs.Shift.Line

namespace Stencil.Markers

variable (markers : Markers)

/-- A line that closes a region, without its line feed, behind some spaces. -/
def closing (columns : Nat) : Text := List.replicate columns ' ' ++ markers.regionEnd

/-- Some lines that close a region each, all at one indentation. -/
def closings (columns : Nat) : Nat → Text
  | 0 => []
  | count + 1 => markers.closing columns ++ '\n' :: closings columns count

/-- Behind spaces the end word still closes a region, and the spaces indent the line. -/
theorem finish_closing (columns number start : Nat) :
    ((Line.Draft.fresh number start).read (markers.closing columns)).finish markers.recogniser =
      .ok ⟨number, start, markers.closing columns, some columns, .closing⟩ := by
  have flush := Text.flush_of_isWord markers.endIsWord
  have read : (Line.Draft.fresh number start).read (markers.closing columns) =
      (Shift.mk 0 columns).draft ((Line.Draft.fresh number start).read markers.regionEnd) := by
    rw [closing, Line.Draft.read_append, Shift.read_spaces, ← Shift.read_shifted _ flush.noFeed]
    simp [Shift.draft, Line.Draft.fresh]
  have content : Text.allBlank ((Line.Draft.fresh number start).read markers.regionEnd).text = false := by
    rw [Line.Draft.read_flush number start flush, Line.Draft.text_flush flush, Line.Draft.allBlank_flush flush]
  rw [read, Shift.finish_shifted _ markers (fun _ => false) content,
    Line.Draft.finish_closing flush markers.recognise_closing]
  simp [bimap, Shift.line, Shift.kind, closing]

/-- The lines of closing lines close a region each at their indentation. -/
theorem classifyFrom_closings (columns count number start : Nat) :
    ∃ lines, Line.classifyFrom markers.recogniser (Line.Draft.fresh number start) (markers.closings columns count) =
        .ok lines ∧ lines.length = count ∧ ∀ line ∈ lines, line.closes = true ∧ line.indentation = columns := by
  have flush := Text.flush_of_isWord markers.endIsWord
  have noFeed : '\n' ∉ markers.closing columns := by simp [closing, flush.noFeed]
  have noTab : '\t' ∉ markers.closing columns := by simp [closing, flush.noTab]
  induction count generalizing number start with
  | zero => exact ⟨[], rfl, rfl, fun line member => nomatch member⟩
  | succ count ih =>
      obtain ⟨lines, classified, length, closes⟩ := ih
        (((Line.Draft.fresh number start).read (markers.closing columns)).number + 1)
        (((Line.Draft.fresh number start).read (markers.closing columns)).start +
          ((Line.Draft.fresh number start).read (markers.closing columns)).size + 1)
      refine ⟨⟨number, start, markers.closing columns, some columns, .closing⟩ :: lines, ?_,
        congrArg Nat.succ length, List.forall_mem_cons.2 ⟨⟨rfl, rfl⟩, closes⟩⟩
      rw [closings, Line.classifyFrom_line noFeed noTab, markers.finish_closing, Line.Draft.next_eq, classified]
      rfl

end Stencil.Markers
