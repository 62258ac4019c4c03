/-
This file shows where the classified lines of a range stand: each lies in the range and has no tab, and a line
feed lies between two of them.
-/
import Stencil.Proofs.Line.Formed

namespace Stencil

namespace Line

/-- The first line stands before the second in a source, with a line feed between them. -/
def Precedes (source : Text) (first second : Line) : Prop :=
  ∃ gap, '\n' ∈ gap ∧ Text.LiesAt source first.start (first.text ++ gap ++ second.text) ∧
    second.start = first.stop + Text.byteSize gap

/-- A finished line is its draft without what is left of the terminator. -/
theorem Draft.finish_split {recogniser : Recogniser} {draft : Draft} {line : Line}
    (success : draft.finish recogniser = .ok line) :
    line.start = draft.start ∧ ∃ tail, draft.reversed.reverse = line.text ++ tail := by
  obtain ⟨start, text⟩ := finish_text success
  obtain ⟨tail, whole, _⟩ := draft.text_append
  exact ⟨start, tail, by rw [text, whole]⟩

/-- A line that was a draft stands behind the characters read before it. -/
theorem Draft.read_finish_split {recogniser : Recogniser} {number start : Nat} {before : Text}
    {line : Line} (success : ((fresh number start).read before).finish recogniser = .ok line) :
    ∃ earlier tail, before = earlier ++ (line.text ++ tail) ∧
      line.start = start + Text.byteSize earlier := by
  obtain ⟨earlier, same, offset⟩ := (formed_fresh number start).read_split before
  obtain ⟨place, tail, split⟩ := finish_split success
  exact ⟨earlier, tail, by rw [← split, ← same]; rfl, by rw [place, offset]; rfl⟩

/-- The lines of a text stand one behind the other. -/
theorem classifyFrom_precedes {recogniser : Recogniser} {draft : Draft} {text : Text}
    {lines : List Line} (success : classifyFrom recogniser draft text = .ok lines)
    (formed : draft.Formed) {source : Text}
    (lies : Text.LiesAt source draft.start (draft.reversed.reverse ++ text)) :
    lines.Pairwise (Precedes source) := by
  induction text generalizing draft lines with
  | nil =>
      rw [classifyFrom] at success
      split at success
      · cases success
        exact .nil
      · obtain ⟨line, _, rfl⟩ := map_ok success
        exact List.pairwise_singleton _ _
  | cons character rest ih =>
      rw [classifyFrom] at success
      split at success
      · next feed =>
          subst feed
          cases finished : draft.finish recogniser with
          | error fault => simp [finished] at success
          | ok line =>
              rw [finished] at success
              obtain ⟨others, classified, rfl⟩ := map_ok success
              have feedSize : '\n'.utf8Size = 1 := rfl
              have start : draft.start + draft.size + 1 =
                  draft.start + Text.byteSize (draft.reversed.reverse ++ ['\n']) := by
                simp [formed.measured, feedSize, Nat.add_assoc]
              refine List.pairwise_cons.2 ⟨fun other member => ?_,
                ih classified (Draft.formed_fresh _ _) ?_⟩
              · obtain ⟨before, after, rfl, _, finishedOther⟩ := classifyFrom_read classified other member
                obtain ⟨earlier, tail, rfl, place⟩ := Draft.read_finish_split finishedOther
                obtain ⟨placeLine, left, split⟩ := Draft.finish_split finished
                refine ⟨left ++ '\n' :: earlier, by simp, ?_, ?_⟩
                · rw [placeLine]
                  refine Text.LiesAt.part [] (tail ++ after) ?_
                  simpa [split] using lies
                · rw [place, start, split, Line.stop, placeLine]
                  simp [Nat.add_assoc]
              · change Text.LiesAt source (draft.start + draft.size + 1) rest
                rw [start]
                refine Text.LiesAt.part _ [] ?_
                simpa using lies
      · next notFeed =>
          split at success
          · cases success
          · refine ih success (formed.push notFeed) ?_
            simpa [Draft.push] using lies

end Line

namespace Recogniser

variable {recogniser : Recogniser} {source : Text} {start stop : Nat} {lines : List Line}

/-- The lines of a range stand one behind the other, with line feeds between them. -/
theorem lines_precedes (success : recogniser.lines source start stop = .ok lines) :
    lines.Pairwise (Line.Precedes source) := by
  unfold Recogniser.lines at success
  split at success
  · cases success
  · next text cut =>
      exact Line.classifyFrom_precedes success (Line.Draft.formed_fresh 0 start)
        (Text.slice?_eq_some_iff.1 cut).1

/-- Each line of a range lies in it and has no tab. -/
theorem lines_within (success : recogniser.lines source start stop = .ok lines) {line : Line}
    (member : line ∈ lines) : start ≤ line.start ∧ line.stop ≤ stop ∧ '\t' ∉ line.text := by
  obtain ⟨before, after, cut, noTab, finished⟩ := lines_read success line member
  obtain ⟨earlier, tail, rfl, place⟩ := Line.Draft.read_finish_split finished
  have stops := (Text.slice?_eq_some_iff.1 cut).2
  simp only [Text.byteSize_append] at stops
  refine ⟨by omega, by rw [Line.stop]; omega, fun tab => noTab ?_⟩
  exact List.mem_append_right _ (List.mem_append_left _ tab)

end Recogniser

end Stencil
