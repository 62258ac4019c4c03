/-
This file relates the slices of a text to its parts.
-/
import Stencil.Text.Basic

namespace Stencil.Text

/-- A space has one byte. -/
theorem byteSize_spaces (count : Nat) : byteSize (List.replicate count ' ') = count := by
  have spaceSize : ' '.utf8Size = 1 := rfl
  induction count with
  | zero => rfl
  | succ count ih => rw [List.replicate_succ, byteSize_cons, ih, spaceSize, Nat.add_comm]

theorem byteSize_pos {text : Text} (nonempty : text ≠ []) : 0 < byteSize text := by
  cases text with
  | nil => exact absurd rfl nonempty
  | cons character rest => exact Nat.add_pos_left (Char.utf8Size_pos character) _

/-- A part lies in a text at a byte offset. -/
def LiesAt (text : Text) (offset : Nat) (part : Text) : Prop :=
  ∃ before after, text = before ++ part ++ after ∧ byteSize before = offset

/-- A part of a part lies behind the bytes before both. -/
theorem LiesAt.part {text part : Text} {offset : Nat} (before after : Text)
    (lies : LiesAt text offset (before ++ part ++ after)) :
    LiesAt text (offset + byteSize before) part := by
  obtain ⟨first, last, rfl, rfl⟩ := lies
  exact ⟨first ++ before, after ++ last, by simp, by simp⟩

/-- What is taken up to a stop is what is taken up to a start before it, and the rest. -/
theorem take_append_drop_take (text : Text) {start stop : Nat} (ordered : start ≤ stop) :
    text.take start ++ (text.take stop).drop start = text.take stop := by
  have front : (text.take stop).take start = text.take start := by
    rw [List.take_take, Nat.min_eq_left ordered]
  rw [← front, List.take_append_drop]

/-- Taking and dropping characters gives a part. -/
theorem LiesAt.take_drop {text line : Text} {offset : Nat} (lies : LiesAt text offset line)
    (start stop : Nat) (ordered : start ≤ stop) :
    LiesAt text (offset + byteSize (line.take start)) ((line.take stop).drop start) := by
  have whole : line.take start ++ (line.take stop).drop start ++ line.drop stop = line := by
    rw [take_append_drop_take line ordered, List.take_append_drop]
  rw [← whole] at lies
  exact lies.part _ _

theorem splitAt?_eq_some_iff {text before after : Text} {offset : Nat} :
    splitAt? text offset = some (before, after) ↔
      text = before ++ after ∧ byteSize before = offset := by
  constructor
  · intro cut
    exact ⟨(splitAt?_append cut).symm, splitAt?_byteSize cut⟩
  · rintro ⟨rfl, rfl⟩
    exact splitAt?_byteSize_append before after

/-- A slice is the part at its start that ends at its stop. -/
theorem slice?_eq_some_iff {text part : Text} {start stop : Nat} :
    slice? text start stop = some part ↔
      LiesAt text start part ∧ start + byteSize part = stop := by
  constructor
  · intro cut
    unfold slice? at cut
    split at cut
    · next ordered =>
        obtain ⟨⟨before, rest⟩, first, second⟩ := Option.bind_eq_some_iff.1 cut
        obtain ⟨⟨found, after⟩, inside, rfl⟩ := Option.map_eq_some_iff.1 second
        obtain ⟨rfl, offset⟩ := splitAt?_eq_some_iff.1 first
        obtain ⟨rfl, size⟩ := splitAt?_eq_some_iff.1 inside
        refine ⟨⟨before, after, by simp, offset⟩, ?_⟩
        change start + byteSize found = stop
        omega
    · simp at cut
  · rintro ⟨⟨before, after, rfl, rfl⟩, rfl⟩
    have first : splitAt? (before ++ part ++ after) (byteSize before) =
        some (before, part ++ after) := by
      rw [List.append_assoc]
      exact splitAt?_byteSize_append before (part ++ after)
    have second : splitAt? (part ++ after) (byteSize before + byteSize part - byteSize before) =
        some (part, after) := by
      rw [Nat.add_sub_cancel_left]
      exact splitAt?_byteSize_append part after
    rw [slice?, if_pos (Nat.le_add_right _ _), first, Option.bind_some, second]
    rfl

/-- A slice at a part's own bounds is the part. -/
theorem LiesAt.slice? {text part : Text} {offset : Nat} (lies : LiesAt text offset part) :
    slice? text offset (offset + byteSize part) = some part :=
  slice?_eq_some_iff.2 ⟨lies, rfl⟩

/-- A text is its own slice. -/
theorem slice?_whole (text : Text) : slice? text 0 (byteSize text) = some text :=
  slice?_eq_some_iff.2 ⟨⟨[], [], by simp, rfl⟩, Nat.zero_add _⟩

/-- An offset is a boundary of a text if it lies between two characters, or at an end. -/
def IsBoundary (text : Text) (offset : Nat) : Prop :=
  ∃ before after, text = before ++ after ∧ byteSize before = offset

/-- Two offsets are a range of a text if they are in order, in bounds and on boundaries. -/
structure IsRange (text : Text) (start stop : Nat) : Prop where
  ordered : start ≤ stop
  bounded : stop ≤ byteSize text
  startBoundary : IsBoundary text start
  stopBoundary : IsBoundary text stop

/-- Exactly the ranges of a text have slices. -/
theorem exists_slice?_iff {text : Text} {start stop : Nat} :
    (∃ part, slice? text start stop = some part) ↔ IsRange text start stop := by
  constructor
  · rintro ⟨part, cut⟩
    obtain ⟨⟨before, after, rfl, rfl⟩, rfl⟩ := slice?_eq_some_iff.1 cut
    refine ⟨Nat.le_add_right _ _, ?_, ⟨before, part ++ after, by simp, rfl⟩,
      ⟨before ++ part, after, rfl, by simp⟩⟩
    simp
  · rintro ⟨ordered, _, ⟨before, after, same, rfl⟩, ⟨longer, rest, split, rfl⟩⟩
    rw [same] at split
    obtain ⟨part, rfl, rfl⟩ : ∃ part, longer = before ++ part ∧ after = part ++ rest := by
      rcases List.append_eq_append_iff.1 split with found | ⟨part, rfl, rfl⟩
      · exact found
      · rw [byteSize_append] at ordered
        cases part with
        | nil => exact ⟨[], by simp, by simp⟩
        | cons character others =>
            have := byteSize_pos (List.cons_ne_nil character others)
            omega
    exact ⟨part, slice?_eq_some_iff.2 ⟨⟨before, rest, by simp [same], rfl⟩, by simp⟩⟩

/-- A part of a part lies in the text. -/
theorem LiesAt.trans {text part inner : Text} {offset start : Nat} (lies : LiesAt text offset part)
    (inside : LiesAt part start inner) : LiesAt text (offset + start) inner := by
  obtain ⟨before, after, rfl, rfl⟩ := inside
  exact lies.part before after

/-- Between two boundaries of a part the text has the slice that the part has. -/
theorem LiesAt.slice?_add {text part : Text} {offset start stop : Nat} (lies : LiesAt text offset part)
    (startBoundary : IsBoundary part start) (stopBoundary : IsBoundary part stop) :
    Text.slice? text (offset + start) (offset + stop) = Text.slice? part start stop := by
  by_cases ordered : start ≤ stop
  · have bounded : stop ≤ byteSize part := by
      obtain ⟨before, after, rfl, rfl⟩ := stopBoundary
      rw [byteSize_append]
      exact Nat.le_add_right _ _
    obtain ⟨inner, cut⟩ := exists_slice?_iff.2 ⟨ordered, bounded, startBoundary, stopBoundary⟩
    obtain ⟨inside, size⟩ := slice?_eq_some_iff.1 cut
    rw [cut, slice?_eq_some_iff]
    exact ⟨lies.trans inside, by rw [Nat.add_assoc, size]⟩
  · rw [Text.slice?, Text.slice?, if_neg ordered, if_neg (by rwa [Nat.add_le_add_iff_left])]

end Stencil.Text
