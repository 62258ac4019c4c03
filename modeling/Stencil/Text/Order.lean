/-
This file orders texts by their code points. The order of their UTF-8 bytes is the same.
-/
import Stencil.Text.Basic

namespace Stencil.Text

/-- A text precedes another if it is a part at its front, or has the smaller code point at the first
difference. -/
def precedes : (first second : Text) → Bool
  | _, [] => false
  | [], _ :: _ => true
  | first :: firsts, second :: seconds =>
      first.toNat < second.toNat || first = second && precedes firsts seconds

theorem precedes_cons {first second : Char} {firsts seconds : Text} :
    precedes (first :: firsts) (second :: seconds) = true ↔
      first.toNat < second.toNat ∨ first = second ∧ precedes firsts seconds = true := by
  simp only [precedes, Bool.or_eq_true, Bool.and_eq_true, decide_eq_true_eq]

theorem precedes_irrefl (text : Text) : precedes text text = false := by
  induction text with
  | nil => rfl
  | cons character rest ih => simp [precedes, ih]

theorem precedes_trans {first second third : Text} (before : precedes first second = true)
    (after : precedes second third = true) : precedes first third = true := by
  induction second generalizing first third with
  | nil => cases first <;> cases before
  | cons middle rest ih =>
      cases third with
      | nil => cases after
      | cons last lasts =>
          cases first with
          | nil => rfl
          | cons character others =>
              rw [precedes_cons] at before after ⊢
              rcases before with smaller | ⟨rfl, before⟩
              · rcases after with smaller | ⟨rfl, _⟩
                · exact .inl (by omega)
                · exact .inl smaller
              · rcases after with smaller | ⟨rfl, after⟩
                · exact .inl smaller
                · exact .inr ⟨rfl, ih before after⟩

/-- Of two different texts, one precedes the other. -/
theorem precedes_of_ne {first second : Text} (different : first ≠ second)
    (notBefore : precedes first second = false) : precedes second first = true := by
  induction first generalizing second with
  | nil =>
      cases second with
      | nil => exact absurd rfl different
      | cons => cases notBefore
  | cons character rest ih =>
      cases second with
      | nil => rfl
      | cons other others =>
          rw [precedes_cons]
          rw [Bool.eq_false_iff, Ne, precedes_cons, not_or] at notBefore
          by_cases same : character = other
          · subst same
            refine .inr ⟨rfl, ih (fun equal => different (equal ▸ rfl)) ?_⟩
            exact Bool.eq_false_iff.2 fun before => notBefore.2 ⟨rfl, before⟩
          · refine .inl ?_
            have distinct : character.toNat ≠ other.toNat :=
              fun equal => same (Char.toNat_inj.1 equal)
            have notSmaller := notBefore.1
            omega

end Stencil.Text
