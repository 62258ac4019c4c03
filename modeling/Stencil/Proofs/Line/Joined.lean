/-
This file classifies the lines of a text that is joined from parts.
-/
import Stencil.Proofs.Line.Formed

namespace Stencil

/-- The text is one line that begins and ends with characters that are not blank. -/
structure Text.Flush (text : Text) : Prop where
  head : ∃ first ∈ text.head?, isBlank first = false
  last : ∃ last ∈ text.getLast?, isBlank last = false
  noTab : '\t' ∉ text
  noFeed : '\n' ∉ text

namespace Line

namespace Draft

/-- Behind a character that is no space, the characters of a line only make it longer. -/
theorem read_content {draft : Draft} {text : Text} (inContent : draft.inContent = true)
    (noFeed : '\n' ∉ text) :
    draft.read text =
      { draft with reversed := text.reverse ++ draft.reversed, size := draft.size + Text.byteSize text } := by
  induction text generalizing draft with
  | nil => rfl
  | cons character rest ih =>
      rw [List.mem_cons, not_or] at noFeed
      have pushed : draft.push character =
          { draft with
            reversed := character :: draft.reversed
            size := draft.size + character.utf8Size } := by
        simp [push, inContent]
      rw [read, if_neg (Ne.symm noFeed.1), pushed, ih (by exact inContent) noFeed.2]
      simp [Nat.add_assoc]

/-- A line that does not begin with a space has no indentation. -/
theorem read_flush (number start : Nat) {text : Text} (flush : text.Flush) :
    (fresh number start).read text = ⟨number, start, text.reverse, Text.byteSize text, 0, true⟩ := by
  obtain ⟨first, head, solid⟩ := flush.head
  have noFeed := flush.noFeed
  cases text with
  | nil => cases head
  | cons character rest =>
      obtain rfl : character = first := Option.some.inj head
      rw [List.mem_cons, not_or] at noFeed
      have notSpace : character ≠ ' ' := by
        rintro rfl
        cases solid
      have pushed : (fresh number start).push character =
          ⟨number, start, [character], character.utf8Size, 0, true⟩ := by
        simp [push, fresh, notSpace]
      rw [read, if_neg (Ne.symm noFeed.1), pushed, read_content rfl noFeed.2, List.reverse_cons]
      rfl

/-- A text that does not end with a carriage return is all of its line. -/
theorem text_flush {text : Text} (flush : text.Flush) (number start size indentation : Nat)
    (inContent : Bool) :
    Draft.text ⟨number, start, text.reverse, size, indentation, inContent⟩ = text := by
  obtain ⟨last, ending, solid⟩ := flush.last
  unfold Draft.text
  split
  · next earlier same =>
      change text.reverse = _ at same
      rw [← List.head?_reverse, same] at ending
      cases ending
      cases solid
  · exact List.reverse_reverse text

theorem allBlank_flush {text : Text} (flush : text.Flush) : Text.allBlank text = false := by
  obtain ⟨first, head, solid⟩ := flush.head
  rw [Text.allBlank, List.all_eq_false]
  exact ⟨first, List.mem_of_mem_head? head, by rw [solid]; exact Bool.false_ne_true⟩

/-- A line at the margin becomes what its recogniser tells. -/
theorem finish_flush (recogniser : Recogniser) (number start : Nat) {text : Text} (flush : text.Flush) :
    ((fresh number start).read text).finish recogniser =
      (kind recogniser ⟨number, start, text.reverse, Text.byteSize text, 0, true⟩).map
        fun kind => ⟨number, start, text, some 0, kind⟩ := by
  rw [read_flush number start flush, finish, text_flush flush, allBlank_flush flush,
    if_neg Bool.false_ne_true]

theorem finish_closing {recogniser : Recogniser} {text : Text} (flush : text.Flush)
    (found : recogniser.mark? text = some .closing) (number start : Nat) :
    ((fresh number start).read text).finish recogniser =
      .ok ⟨number, start, text, some 0, .closing⟩ := by
  rw [finish_flush recogniser number start flush, kind, text_flush flush, found]
  rfl

theorem finish_directives {recogniser : Recogniser} {text : Text} (flush : text.Flush)
    {directives : DirectiveText}
    (found : recogniser.mark? text = some (.opening (some directives))) {number start : Nat}
    {tokens : List Token}
    (scanned : Token.scan number directives.column (start + directives.column) directives.text =
      .ok tokens) :
    ((fresh number start).read text).finish recogniser =
      .ok ⟨number, start, text, some 0, .directives (start + directives.column) tokens⟩ := by
  rw [finish_flush recogniser number start flush, kind, text_flush flush, found]
  dsimp only
  rw [scanned]
  rfl

/-- Behind a line feed nothing of the next line is read. -/
theorem read_terminated (draft : Draft) (text : Text) :
    ∃ number start, draft.read (text ++ ['\n']) = fresh number start :=
  ⟨(draft.read text).number + 1, (draft.read text).start + (draft.read text).size + 1, by
    rw [read_append, read, if_pos rfl, read, next_eq]⟩

end Draft

section

variable {recogniser : Recogniser} {draft : Draft}

/-- The first line of a text is what its draft becomes at the line feed. -/
theorem classifyFrom_line {text : Text} (noFeed : '\n' ∉ text) (noTab : '\t' ∉ text) (rest : Text) :
    classifyFrom recogniser draft (text ++ '\n' :: rest) =
      (draft.read text).finish recogniser >>= fun line =>
        (classifyFrom recogniser (draft.read text).next rest).map (line :: ·) := by
  induction text generalizing draft with
  | nil =>
      rw [List.nil_append, classifyFrom, if_pos rfl, Draft.read]
      cases draft.finish recogniser <;> rfl
  | cons character others ih =>
      rw [List.mem_cons, not_or] at noFeed noTab
      rw [List.cons_append, classifyFrom, if_neg (Ne.symm noFeed.1), if_neg (Ne.symm noTab.1),
        ih noFeed.2 noTab.2, Draft.read, if_neg (Ne.symm noFeed.1)]

/-- The lines of a text behind which no line is in progress are followed by those of the rest. -/
theorem classifyFrom_append {first : Text} (complete : (draft.read first).reversed = []) (rest : Text) :
    classifyFrom recogniser draft (first ++ rest) =
      classifyFrom recogniser draft first >>= fun lines =>
        (classifyFrom recogniser (draft.read first) rest).map (lines ++ ·) := by
  have prepend (line : Line) (lines more : Except Error (List Line)) :
      (lines >>= fun lines => more.map (lines ++ ·)).map (line :: ·) =
        (lines.map (line :: ·) >>= fun lines => more.map (lines ++ ·)) := by
    cases lines with
    | error error => rfl
    | ok lines => cases more <;> rfl
  induction first generalizing draft with
  | nil =>
      rw [Draft.read] at complete ⊢
      have none : classifyFrom recogniser draft [] = .ok [] := by
        rw [classifyFrom, complete]
        rfl
      rw [none, List.nil_append]
      change _ = Except.map ([] ++ ·) _
      cases classifyFrom recogniser draft rest <;> rfl
  | cons character others ih =>
      rw [Draft.read] at complete ⊢
      rw [List.cons_append, classifyFrom, classifyFrom]
      split
      · next feed =>
          rw [if_pos feed] at complete
          cases draft.finish recogniser with
          | error error => rfl
          | ok line =>
              dsimp only
              rw [ih complete, prepend]
      · next notFeed =>
          rw [if_neg notFeed] at complete
          split
          · rfl
          · exact ih complete

end

end Line

end Stencil
