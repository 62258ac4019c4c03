/-
This file shows that each token of a directive text has the place at which it stands, and that a scan is refused
at a character where no lexeme starts.
-/
import Stencil.Proofs.Decided
import Stencil.Proofs.Token.Scan

namespace Stencil

/-- A scan that reads on behind its first lexeme has read this lexeme before. -/
theorem Lexeme.Reads.cons {text after part rest : Text} {lexeme : Lexeme}
    (found : read? text = some (lexeme, after)) (reads : Reads after part rest) :
    Reads text (lexeme.text ++ part) rest := by
  induction reads with
  | start =>
      rw [List.append_nil]
      exact .next .start found
  | next _ other ih =>
      rw [← List.append_assoc]
      exact .next ih other

namespace Token

/-- A token stands in a directive text, which starts at a column of a line and at a byte offset. An end of line
stands behind the text. -/
structure StandsIn (line column start : Nat) (text : Text) (token : Token) : Prop where
  line : token.line = line
  split : ∃ before after, text = before ++ (token.text ++ after) ∧
    token.column = column + Text.byteSize before ∧ token.start = start + Text.byteSize before ∧
      (token.kind = .endOfLine → token.text = [] ∧ after = [])

theorem StandsIn.behind {line column start : Nat} {text part : Text} {token : Token}
    (stands : StandsIn line (column + Text.byteSize part) (start + Text.byteSize part) text token) :
    StandsIn line column start (part ++ text) token where
  line := stands.line
  split := by
    obtain ⟨before, after, rfl, columns, offset, ending⟩ := stands.split
    refine ⟨part ++ before, after, by simp, ?_, ?_, ending⟩
    · rw [columns, Text.byteSize_append, Nat.add_assoc]
    · rw [offset, Text.byteSize_append, Nat.add_assoc]

/-- The tokens of a directive text stand in it. -/
theorem scan_standsIn {line column start : Nat} {text : Text} {tokens : List Token}
    (success : scan line column start text = .ok tokens) :
    ∀ token ∈ tokens, StandsIn line column start text token := by
  fun_induction scan line column start text generalizing tokens with
  | case1 column start _ =>
      cases success
      exact List.forall_mem_singleton.2 ⟨rfl, [], [], rfl, rfl, rfl, fun _ => ⟨rfl, rfl⟩⟩
  | case2 => cases success
  | case3 column start text lexeme after found width =>
      rename_i ih
      obtain ⟨others, scanned, same⟩ := map_ok success
      have later : ∀ token ∈ others, StandsIn line column start text token := fun token member => by
        rw [← Lexeme.read?_append found]
        exact (ih scanned token member).behind
      subst same
      cases classed : lexeme.kind? with
      | none => exact later
      | some kind =>
          have goesOn := (read?_shaped found classed).2
          refine List.forall_mem_cons.2 ⟨⟨rfl, [], after, ?_, rfl, rfl, fun ends => absurd ends goesOn⟩, later⟩
          exact (Lexeme.read?_append found).symm

/-- A scan is refused at the first character where no lexeme starts. -/
theorem scan_refused {line column start : Nat} {text : Text} {error : Error}
    (failure : scan line column start text = .error error) :
    ∃ part character left, Lexeme.Reads text part (character :: left) ∧
      Lexeme.read? (character :: left) = none ∧
        error = .lexical ⟨line, column + Text.byteSize part⟩ (.unexpected character) := by
  fun_induction scan line column start text with
  | case1 => cases failure
  | case2 column start character rest absent =>
      cases failure
      exact ⟨[], character, rest, .start, absent, rfl⟩
  | case3 column start text lexeme after found width =>
      rename_i ih
      obtain ⟨part, character, left, reads, absent, rfl⟩ := ih (map_error failure)
      refine ⟨lexeme.text ++ part, character, left, reads.cons found, absent, ?_⟩
      rw [Text.byteSize_append, Nat.add_assoc]

end Token

end Stencil
