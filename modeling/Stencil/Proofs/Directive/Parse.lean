/-
This file shows that the directives of a token line are read safely: no reader passes the end of line.
-/
import Stencil.Directive.Parse
import Stencil.Proofs.Decided
import Stencil.Proofs.Token.Scan

namespace Stencil.Directive

/-- What a phrase leaves of some tokens ends with the same end of line. -/
def Leaves {Result : Type} (tokens : List Token) (outcome : Result × List Token) : Prop :=
  Token.Terminated outcome.2 ∧ outcome.2 <:+ tokens

theorem Leaves.trans {First Second : Type} {tokens : List Token} {first : First × List Token}
    {second : Second × List Token} (earlier : Leaves tokens first) (later : Leaves first.2 second) :
    Leaves tokens second :=
  ⟨later.1, later.2.trans earlier.2⟩

section

variable {tokens : List Token}

/-- Before the end of line a token is expected safely. -/
theorem expect_safe {wanted : Token.Kind} (goesOn : wanted ≠ .endOfLine)
    (terminated : Token.Terminated tokens) : Safe (expect wanted tokens) (Leaves tokens) := by
  cases tokens with
  | nil =>
      obtain ⟨before, last, same, _⟩ := terminated
      simp at same
  | cons token rest =>
      by_cases found : token.kind = wanted
      · refine .of_ok (by rw [expect, if_pos found]) ⟨?_, List.suffix_cons token rest⟩
        rw [← found] at goesOn
        exact (Token.terminated_cons goesOn).1 terminated
      · exact .of_error (by rw [expect, if_neg found]) rfl

/-- A reader goes on safely if what follows does. -/
theorem read_bind_safe {First Second : Type} {outcome : Except Stop (First × List Token)}
    (first : Safe outcome (Leaves tokens))
    {next : First × List Token → Except Stop (Second × List Token)}
    (following : ∀ value left, Token.Terminated left → Safe (next (value, left)) (Leaves left)) :
    Safe (outcome >>= next) (Leaves tokens) := by
  apply first.bind
  rintro ⟨value, left⟩ leaves
  apply (following value left leaves.1).weaken
  intro result behind
  exact leaves.trans behind

theorem leaves_all {Result : Type} (result : Result) (terminated : Token.Terminated tokens) :
    Safe (.ok (result, tokens)) (Leaves tokens) :=
  .of_ok rfl ⟨terminated, List.suffix_refl tokens⟩

theorem name_safe (token : Token) : Safe (name token) fun _ => True := by
  unfold name
  split
  · cases decoded : Text.Quoted.decode token.text with
    | error fault => exact .of_error rfl rfl
    | ok text => exact .of_ok rfl trivial
  · exact .of_ok rfl trivial

/-- The flags of a replacement are read safely. -/
theorem flags_safe (known : Flags) (terminated : Token.Terminated tokens) :
    Safe (flags known tokens) (Leaves tokens) := by
  fun_induction flags known tokens with
  | case1 known comma word rest isComma isWord flag _ ih =>
      rw [Token.terminated_cons (by rw [isComma]; decide),
        Token.terminated_cons (by rw [isWord]; decide)] at terminated
      apply (ih terminated).weaken
      intro result left
      exact ⟨left.1, left.2.trans ((List.suffix_cons word rest).trans (List.suffix_cons comma _))⟩
  | case2 => exact .of_error rfl rfl
  | case3 => exact .of_error rfl rfl
  | case4 => exact .of_ok rfl ⟨terminated, List.suffix_refl _⟩
  | case5 known token isComma =>
      rw [Token.terminated_cons (by rw [isComma]; decide)] at terminated
      obtain ⟨before, last, same, _⟩ := terminated
      simp at same
  | case6 => exact .of_ok rfl ⟨terminated, List.suffix_refl _⟩
  | case7 =>
      obtain ⟨before, last, same, _⟩ := terminated
      simp at same

/-- Each phrase is read safely. -/
theorem phrase_safe (keyword : Keyword) (terminated : Token.Terminated tokens) :
    Safe (phrase keyword tokens) (Leaves tokens) := by
  cases keyword with
  | define =>
      refine read_bind_safe (expect_safe (by decide) terminated) fun _ _ terminated => ?_
      refine read_bind_safe (expect_safe (by decide) terminated) fun quoted _ terminated => ?_
      refine read_bind_safe (expect_safe (by decide) terminated) fun _ _ terminated => ?_
      exact (name_safe quoted).bind fun _ _ => leaves_all _ terminated
  | replace =>
      refine read_bind_safe (expect_safe (by decide) terminated) fun _ _ terminated => ?_
      refine read_bind_safe (expect_safe (by decide) terminated) fun _ _ terminated => ?_
      refine read_bind_safe (expect_safe (by decide) terminated) fun _ _ terminated => ?_
      refine read_bind_safe (expect_safe (by decide) terminated) fun _ _ terminated => ?_
      refine read_bind_safe (flags_safe .empty terminated) fun _ _ terminated => ?_
      refine read_bind_safe (expect_safe (by decide) terminated) fun _ _ terminated => ?_
      exact leaves_all _ terminated
  | foreach =>
      refine read_bind_safe (expect_safe (by decide) terminated) fun _ _ terminated => ?_
      refine read_bind_safe (expect_safe (by decide) terminated) fun _ _ terminated => ?_
      refine read_bind_safe (expect_safe (by decide) terminated) fun _ _ terminated => ?_
      refine read_bind_safe (expect_safe (by decide) terminated) fun _ _ terminated => ?_
      refine read_bind_safe (expect_safe (by decide) terminated) fun _ _ terminated => ?_
      exact leaves_all _ terminated
  | insert =>
      refine read_bind_safe (expect_safe (by decide) terminated) fun _ _ terminated => ?_
      refine read_bind_safe (expect_safe (by decide) terminated) fun _ _ terminated => ?_
      refine read_bind_safe (expect_safe (by decide) terminated) fun _ _ terminated => ?_
      exact leaves_all _ terminated

/-- A keyword is parsed with its phrase, and what the phrase leaves is parsed behind it. -/
theorem parseTerminated_cons_keyword (line lineStart : Nat) {token : Token} {keyword : Keyword} (rest : List Token)
    (word : token.kind = .identifier) (known : Keyword.ofWord? token.text = some keyword) :
    parseTerminated line lineStart (token :: rest) = phrase keyword rest >>= fun outcome =>
      if token.start < lineStart then .error (.broken .keywordBeforeLine)
      else (parseTerminated line lineStart outcome.2).map (⟨outcome.1, line, token.start - lineStart⟩ :: ·) := by
  rw [parseTerminated, if_neg (by simp [word]), if_pos word, known]
  dsimp only
  split
  · next stop failure =>
      rw [failure]
      rfl
  · next instruction left success =>
      rw [success]
      rfl

/-- The directives of tokens that stand behind the start of their line are read safely. -/
theorem parseTerminated_safe (line lineStart : Nat) (terminated : Token.Terminated tokens)
    (behind : ∀ token ∈ tokens, lineStart ≤ token.start) :
    Safe (parseTerminated line lineStart tokens) fun _ => True := by
  fun_induction parseTerminated line lineStart tokens with
  | case1 =>
      obtain ⟨before, last, same, _⟩ := terminated
      simp at same
  | case2 => exact .of_ok rfl trivial
  | case3 token rest goesOn _ _ ih =>
      exact ih ((Token.terminated_cons goesOn).1 terminated) (List.forall_mem_cons.1 behind).2
  | case4 token rest goesOn _ keyword _ stop failure =>
      have read := phrase_safe keyword ((Token.terminated_cons goesOn).1 terminated)
      obtain ⟨error, place, rfl, placed⟩ := read.located _ failure
      exact .of_error rfl placed
  | case5 token rest _ _ _ _ _ _ _ before => exact absurd before (Nat.not_lt.2 (behind token List.mem_cons_self))
  | case6 token rest goesOn _ keyword _ instruction left success _ ih =>
      have read := phrase_safe keyword ((Token.terminated_cons goesOn).1 terminated)
      obtain ⟨terminatedLeft, suffix⟩ := read.effect _ success
      exact (ih terminatedLeft fun other member => behind other (.tail _ (suffix.mem member))).map _
  | case7 token rest goesOn _ ih =>
      exact ih ((Token.terminated_cons goesOn).1 terminated) (List.forall_mem_cons.1 behind).2

/-- The directives of a token line are read safely. -/
theorem parse_safe (line lineStart : Nat) (terminated : Token.Terminated tokens)
    (behind : ∀ token ∈ tokens, lineStart ≤ token.start) :
    Safe (parse line lineStart tokens) fun _ => True := by
  unfold parse
  split
  · exact .of_ok rfl trivial
  · exact parseTerminated_safe line lineStart terminated behind

end

end Stencil.Directive
