/-
This file puts a text between quotes, and shows that the quotes come off again.
-/
import Stencil.Text.Quoted

namespace Stencil.Text

/-- The text with a backslash before each quote and each backslash. -/
def escaped (text : Text) : Text :=
  text.flatMap fun character =>
    if character = '"' ∨ character = '\\' then ['\\', character] else [character]

/-- The text between double quotes. -/
def quote (text : Text) : Text := '"' :: (escaped text ++ ['"'])

theorem escaped_cons (character : Char) (rest : Text) :
    escaped (character :: rest) =
      (if character = '"' ∨ character = '\\' then ['\\', character] else [character]) ++
        escaped rest :=
  rfl

/-- A text that gets no backslash stays as it is. -/
theorem escaped_bare {text : Text} (bare : '\\' ∉ escaped text) : escaped text = text := by
  induction text with
  | nil => rfl
  | cons character rest ih =>
      rw [escaped_cons] at bare ⊢
      split at bare
      · exact absurd List.mem_cons_self bare
      · next plain =>
          rw [if_neg plain, ih fun member => bare (List.mem_append_right _ member)]
          rfl

namespace Quoted

/-- Between double quotes an escaped text is decoded to the text. -/
theorem decodeFrom_escaped (text : Text) (index : Nat) :
    decodeFrom .double index (escaped text ++ ['"']) = .ok text := by
  induction text generalizing index with
  | nil => rfl
  | cons character rest ih =>
      rw [escaped_cons]
      split
      · next special =>
          have letter : escaped? character = some character ∧ character ≠ 'u' := by
            rcases special with rfl | rfl <;> exact ⟨rfl, by decide⟩
          simp only [List.cons_append, List.nil_append]
          rw [decodeFrom, if_neg (by decide), if_pos rfl, decodeFrom, if_neg letter.2, letter.1, ih]
          rfl
      · next plain =>
          rw [not_or] at plain
          rw [List.singleton_append, List.cons_append, decodeFrom, if_neg plain.1, if_neg plain.2, ih]
          rfl

/-- A quoted text is decoded to the text. -/
theorem decode_quote (text : Text) : decode (quote text) = .ok text := by
  rw [decode, quote, decodeFrom, if_neg (by decide), if_pos rfl]
  exact decodeFrom_escaped text _

end Quoted

end Stencil.Text
