/-
This file puts blanks between the words of a directive, and shows that the words are scanned back into tokens.
-/
import Stencil.Proofs.Token.Scan
import Stencil.Proofs.Token.Words

namespace Stencil

open Text

namespace Word

/-- A word is read before another one, whatever blanks are between them. -/
def Precedes (word next : Word) : Prop :=
  ∀ blanks rest, allBlank blanks = true → word.Leads (blanks ++ (next.text ++ rest))

/-- Each of some words is read before the next, and the last of them before any text. -/
inductive Phrase : List Word → Prop where
  | last {word : Word} (closed : word.Closed) : Phrase [word]
  | next {word next : Word} {words : List Word} (precedes : word.Precedes next)
      (others : Phrase (next :: words)) : Phrase (word :: next :: words)

/-- Words stand in a text in their order, with any blanks between them. -/
inductive Spaced : List Word → Text → Prop where
  | last (word : Word) : Spaced [word] word.text
  | next {word : Word} {blanks text : Text} {words : List Word} (blank : allBlank blanks = true)
      (others : Spaced words text) : Spaced (word :: words) (word.text ++ (blanks ++ text))

theorem Closed.precedes {word : Word} (closed : word.Closed) (next : Word) : word.Precedes next :=
  fun _ _ _ => closed _

/-- A word that is read before what does not continue it precedes each mark of punctuation. -/
theorem precedes_apart {word next : Word} (leads : ∀ {rest}, Apart rest → word.Leads rest)
    (apart : ∀ rest, Apart (next.text ++ rest)) : word.Precedes next :=
  fun _ rest blank => leads (Lexeme.apart_blanks blank (apart rest))

/-- A word begins with a character that is not blank. -/
theorem Leads.solid {word : Word} {rest : Text} (leads : word.Leads rest) (other : Text) :
    ∀ first ∈ (word.text ++ other).head?, isBlank first = false := by
  have some := Lexeme.read?_text_ne_nil leads
  unfold Leads Lexeme.read? at leads
  cases same : word.text with
  | nil => exact absurd same some
  | cons character others =>
      rw [same, List.cons_append] at leads
      dsimp only at leads
      rintro first ⟨⟩
      split at leads
      · cases leads
      · next solid => exact Bool.eq_false_iff.2 solid

theorem Phrase.solid {word : Word} {words : List Word} (phrase : Phrase (word :: words)) (other : Text) :
    ∀ first ∈ (word.text ++ other).head?, isBlank first = false := by
  cases phrase with
  | last closed => exact (closed []).solid other
  | next precedes => exact (precedes [] [] rfl).solid other

/-- A text of words begins with the first of them. -/
theorem Spaced.starts {word : Word} {words : List Word} {text : Text}
    (spaced : Spaced (word :: words) text) : ∃ tail, text = word.text ++ tail := by
  cases spaced with
  | last => exact ⟨[], (List.append_nil _).symm⟩
  | next => exact ⟨_, rfl⟩

/-- Words can stand in a text without blanks. -/
theorem Phrase.unspaced {words : List Word} (phrase : Phrase words) : ∃ text, Spaced words text := by
  induction phrase with
  | last => exact ⟨_, .last _⟩
  | next _ _ ih =>
      obtain ⟨text, spaced⟩ := ih
      have tight : allBlank [] = true := rfl
      exact ⟨_, .next tight spaced⟩

end Word

namespace Token

/-- The word of a token. -/
def word (token : Token) : Word := ⟨token.kind, token.text⟩

theorem kind_of_word {token : Token} {word : Word} (worded : token.word = word) :
    token.kind = word.kind :=
  congrArg Word.kind worded

theorem text_of_word {token : Token} {word : Word} (worded : token.word = word) :
    token.text = word.text :=
  congrArg Word.text worded

variable {line column start : Nat}

/-- A word at the head of a text is the first token. -/
theorem scan_leads {word : Word} {rest : Text} (leads : word.Leads rest) :
    scan line column start (word.text ++ rest) =
      (scan line (column + byteSize word.text) (start + byteSize word.text) rest).map
        (⟨word.kind, start, word.text, line, column⟩ :: ·) := by
  rw [scan_read leads]
  rfl

/-- Blanks at the head of a text leave no token. -/
theorem scan_blanks {blanks rest : Text} (blank : allBlank blanks = true)
    (solid : ∀ first ∈ rest.head?, isBlank first = false) :
    scan line column start (blanks ++ rest) =
      scan line (column + byteSize blanks) (start + byteSize blanks) rest := by
  cases blanks with
  | nil => rfl
  | cons first others =>
      obtain ⟨here, later⟩ := List.forall_mem_cons.1 (List.all_eq_true.1 blank)
      have taken : (others ++ rest).takeWhile isBlank = others ∧
          (others ++ rest).dropWhile isBlank = rest := by
        rw [List.takeWhile_append_of_pos later, List.dropWhile_append_of_pos later]
        cases rest with
        | nil => simp
        | cons next more => simp [solid next rfl]
      have read : Lexeme.read? (first :: others ++ rest) = some (⟨none, first :: others⟩, rest) := by
        unfold Lexeme.read?
        simp only [List.cons_append, here, if_true, taken.1, taken.2]
      rw [scan_read read]
      change Except.map (fun tokens => tokens) _ = _
      cases scan line (column + byteSize (first :: others)) (start + byteSize (first :: others)) rest <;> rfl

/-- Spaced words are scanned into their tokens, the first of them at the start. -/
theorem scan_spaced {words : List Word} {text : Text} (spaced : Word.Spaced words text)
    (phrase : Word.Phrase words) (line column start : Nat) :
    ∃ tokens, tokens.map word = words ∧ (∀ first ∈ tokens.head?, first.start = start) ∧
      ∀ rest, scan line column start (text ++ rest) =
        (scan line (column + byteSize text) (start + byteSize text) rest).map (tokens ++ ·) := by
  induction spaced generalizing column start with
  | last word =>
      cases phrase with
      | last closed =>
          refine ⟨[⟨word.kind, start, word.text, line, column⟩], rfl, ?_, fun rest => ?_⟩
          · rintro first ⟨⟩
            rfl
          · exact scan_leads (closed rest)
  | @next word blanks text words blank others ih =>
      cases phrase with
      | last => cases others
      | @next _ next words precedes later =>
          obtain ⟨tail, same⟩ := others.starts
          obtain ⟨tokens, worded, _, scanned⟩ := ih later
            (column + byteSize word.text + byteSize blanks) (start + byteSize word.text + byteSize blanks)
          refine ⟨⟨word.kind, start, word.text, line, column⟩ :: tokens, congrArg (word :: ·) worded, ?_,
            fun rest => ?_⟩
          · rintro first ⟨⟩
            rfl
          · have leads : word.Leads (blanks ++ (text ++ rest)) := by
              rw [same, List.append_assoc]
              exact precedes blanks (tail ++ rest) blank
            have solid : ∀ first ∈ (text ++ rest).head?, isBlank first = false := by
              rw [same, List.append_assoc]
              exact later.solid (tail ++ rest)
            rw [List.append_assoc, List.append_assoc, scan_leads leads, scan_blanks blank solid, scanned]
            simp only [byteSize_append, ← Nat.add_assoc]
            cases scan line (column + byteSize word.text + byteSize blanks + byteSize text)
              (start + byteSize word.text + byteSize blanks + byteSize text) rest <;> rfl

end Token

end Stencil
