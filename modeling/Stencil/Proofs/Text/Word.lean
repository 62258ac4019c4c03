/-
This file says what words and blanks do at the ends of a text.
-/
import Mathlib.Data.List.TakeWhile
import Stencil.Markers

namespace Stencil.Text

theorem isWord_iff {word : Text} :
    isWord word = true ↔ word ≠ [] ∧ ∀ character ∈ word, isBlank character = false := by
  simp [isWord]

theorem ne_nil_of_isWord {word : Text} (isWord : Text.isWord word = true) : word ≠ [] := (isWord_iff.1 isWord).1

/-- Text that begins with a word begins with a character that is not blank. -/
theorem solid_of_isWord {word : Text} (isWord : Text.isWord word = true) (rest : Text) :
    ∀ first ∈ (word ++ rest).head?, isBlank first = false := by
  obtain ⟨nonempty, solid⟩ := isWord_iff.1 isWord
  cases word with
  | nil => exact absurd rfl nonempty
  | cons first others =>
      intro _ head
      cases head
      exact solid first List.mem_cons_self

theorem not_mem_of_isWord {word : Text} (isWord : Text.isWord word = true) {character : Char}
    (blank : isBlank character = true) : character ∉ word := by
  intro member
  rw [(isWord_iff.1 isWord).2 character member] at blank
  cases blank

/-- Text that begins with a character that is not blank has no blanks before it. -/
theorem trimStart_eq {text : Text} (solid : ∀ first ∈ text.head?, isBlank first = false) :
    trimStart text = text := by
  cases text with
  | nil => rfl
  | cons first rest => rw [trimStart, List.dropWhile_cons, solid first rfl, if_neg Bool.false_ne_true]

theorem trimEnd_concat {last : Char} (solid : isBlank last = false) (text : Text) :
    trimEnd (text ++ [last]) = text ++ [last] := by
  simp [trimEnd, solid]

theorem trimEnd_cons (character : Char) (rest : Text) : trimEnd (character :: rest) =
    if trimEnd rest = [] then if isBlank character then [] else [character] else character :: trimEnd rest := by
  simp only [trimEnd, List.reverse_cons, List.dropWhile_append, List.reverse_eq_nil_iff, List.isEmpty_iff]
  split
  · rw [List.dropWhile_cons]
    split <;> rfl
  · rw [List.reverse_append]
    rfl

theorem trimStart_append {blanks : Text} (blank : blanks.allBlank = true) (text : Text) :
    trimStart (blanks ++ text) = trimStart text :=
  List.dropWhile_append_of_pos (List.all_eq_true.1 blank)

/-- Text that ends with a character that is not blank has no blanks behind it but those that are added. -/
theorem trimEnd_append_eq {text blanks : Text} (solid : ∀ last ∈ text.getLast?, isBlank last = false)
    (blank : blanks.allBlank = true) : trimEnd (text ++ blanks) = text := by
  have reversed : ∀ character ∈ blanks.reverse, isBlank character = true := fun character member =>
    List.all_eq_true.1 blank character (List.mem_reverse.1 member)
  have kept := @trimStart_eq text.reverse (by rwa [List.head?_reverse])
  rw [trimStart] at kept
  rw [trimEnd, List.reverse_append, List.dropWhile_append_of_pos reversed, kept, List.reverse_reverse]

/-- A blank text has nothing but blanks behind it. -/
theorem trimEnd_eq_nil {text : Text} (blank : ∀ character ∈ text, isBlank character = true) : trimEnd text = [] := by
  rw [trimEnd, List.reverse_eq_nil_iff, List.dropWhile_eq_nil_iff]
  exact fun character member => blank character (List.mem_reverse.1 member)

/-- Behind the first blanks comes a character that is not blank. -/
theorem trimStart_head? (text : Text) : ∀ first ∈ (trimStart text).head?, isBlank first = false := by
  intro first head
  have solid := List.head?_dropWhile_not isBlank text
  rw [trimStart] at head
  rwa [Option.mem_def.1 head] at solid

/-- The text behind the first blanks ends with a character that is not blank. -/
theorem trimEnd_trimStart_ne_nil {text : Text} (filled : trimStart text ≠ []) : trimEnd (trimStart text) ≠ [] := by
  obtain ⟨first, rest, same⟩ := List.exists_cons_of_ne_nil filled
  have solid := trimStart_head? text first (by rw [same]; rfl)
  rw [same, trimEnd_cons, solid]
  split <;> simp

/-- Without the blanks behind it a text begins as it did, if it did with a character that is not blank. -/
theorem trimEnd_head? {text : Text} {first : Char} (head : text.head? = some first) (solid : isBlank first = false) :
    (trimEnd text).head? = some first := by
  obtain ⟨rest, rfl⟩ := List.head?_eq_some_iff.1 head
  rw [trimEnd_cons, solid]
  split <;> rfl

/-- Without the blanks behind it a text ends with a character that is not blank. -/
theorem trimEnd_getLast? (text : Text) : ∀ last ∈ (trimEnd text).getLast?, isBlank last = false := by
  rw [trimEnd, List.getLast?_reverse]
  exact trimStart_head? text.reverse

/-- Where a word ends in front of other text, blanks come. -/
theorem takeWhile_ne_nil {text : Text} (filled : text ≠ []) (ends : atWordEnd text = true) :
    text.takeWhile isBlank ≠ [] := by
  obtain ⟨first, rest, rfl⟩ := List.exists_cons_of_ne_nil filled
  have blank : isBlank first = true := ends
  rw [List.takeWhile_cons, if_pos blank]
  exact List.cons_ne_nil _ _

/-- Behind a text without the blanks behind it a word ends. -/
theorem atWordEnd_blanks {blanks : Text} (blank : ∀ character ∈ blanks, isBlank character = true) :
    atWordEnd blanks = true := by
  cases blanks with
  | nil => rfl
  | cons first rest => exact blank first List.mem_cons_self

/-- A text is the text without the blanks behind it, and these blanks. -/
theorem trimEnd_append (text : Text) :
    ∃ blanks, text = trimEnd text ++ blanks ∧ ∀ blank ∈ blanks, isBlank blank = true := by
  refine ⟨(text.reverse.takeWhile isBlank).reverse, ?_, fun blank member => ?_⟩
  · rw [trimEnd, ← List.reverse_append, List.takeWhile_append_dropWhile, List.reverse_reverse]
  · exact List.mem_takeWhile_imp (List.mem_reverse.1 member)

theorem dropWord?_append (word rest : Text) : dropWord? word (word ++ rest) = some rest := by
  induction word with
  | nil => rfl
  | cons character others ih => rw [List.cons_append, dropWord?, if_pos rfl, ih]

/-- What follows a word behind blanks is the end of the text. -/
theorem append_of_dropWord? {word text rest : Text} (found : dropWord? word (trimStart text) = some rest) :
    text = text.takeWhile isBlank ++ word ++ rest := by
  rw [List.append_assoc, ← Markers.dropWord?_append found, trimStart, List.takeWhile_append_dropWhile]

/-- No word stands at a blank. -/
theorem dropWord?_blank {word : Text} (isWord : Text.isWord word = true) {character : Char}
    (blank : isBlank character = true) (rest : Text) : dropWord? word (character :: rest) = none := by
  obtain ⟨nonempty, solid⟩ := isWord_iff.1 isWord
  obtain ⟨first, others, rfl⟩ := List.exists_cons_of_ne_nil nonempty
  refine if_neg ?_
  rintro rfl
  rw [solid first List.mem_cons_self] at blank
  cases blank

/-- No word stands at the end of a text. -/
theorem dropWord?_nil {word : Text} (isWord : Text.isWord word = true) : dropWord? word [] = none := by
  obtain ⟨first, others, rfl⟩ := List.exists_cons_of_ne_nil (ne_nil_of_isWord isWord)
  rfl

/-- A text begins with a word if the word is all of it or a blank follows. -/
def BeginsWith (word text : Text) : Prop :=
  text = word ∨ ∃ blank rest, isBlank blank = true ∧ text = word ++ blank :: rest

theorem beginsWith_iff {word text : Text} :
    BeginsWith word text ↔ ∃ after, text = word ++ after ∧ atWordEnd after = true := by
  constructor
  · rintro (rfl | ⟨blank, rest, isBlank, rfl⟩)
    · exact ⟨[], (List.append_nil _).symm, rfl⟩
    · exact ⟨blank :: rest, rfl, isBlank⟩
  · rintro ⟨after, rfl, ends⟩
    cases after with
    | nil => exact .inl (List.append_nil _)
    | cons blank rest => exact .inr ⟨blank, rest, ends, rfl⟩

/-- What is left of a text behind a word that it begins with. -/
theorem filter_dropWord?_iff {word text after : Text} :
    (dropWord? word text).filter atWordEnd = some after ↔ text = word ++ after ∧ atWordEnd after = true := by
  rw [Option.filter_eq_some_iff]
  refine and_congr_left fun _ => ⟨Markers.dropWord?_append, ?_⟩
  rintro rfl
  exact dropWord?_append word after

/-- A text begins with one word. -/
theorem BeginsWith.unique {word other text : Text} (isWord : Text.isWord word = true)
    (isWordToo : Text.isWord other = true) (begins : BeginsWith word text) (beginsToo : BeginsWith other text) :
    word = other := by
  have first : ∀ {word text : Text}, Text.isWord word = true → BeginsWith word text →
      text.takeWhile (fun character => !isBlank character) = word := by
    intro word text isWord begins
    obtain ⟨after, rfl, ends⟩ := beginsWith_iff.1 begins
    have solid : ∀ character ∈ word, (!isBlank character) = true := fun character member => by
      rw [(isWord_iff.1 isWord).2 character member]
      rfl
    rw [List.takeWhile_append_of_pos solid]
    cases after with
    | nil => rw [List.takeWhile_nil, List.append_nil]
    | cons blank rest =>
        have isBlank : isBlank blank = true := ends
        rw [List.takeWhile_cons, isBlank, Bool.not_true, if_neg Bool.false_ne_true, List.append_nil]
  rw [← first isWord begins, first isWordToo beginsToo]

end Stencil.Text
