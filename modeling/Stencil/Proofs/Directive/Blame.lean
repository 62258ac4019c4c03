/-
This file shows that a directive is refused for a token that is at fault, and that a directive has the place of
its keyword.
-/
import Mathlib.Data.List.Forall2
import Stencil.Proofs.Directive.Parse

namespace Stencil

/-- The place of a token. -/
def Token.place (token : Token) : Place := ⟨token.line, token.column⟩

/-- A token has its place in a line with a number and a start: its column is its offset from the start. -/
structure Token.InLine (number start : Nat) (token : Token) : Prop where
  line : token.line = number
  start : token.start = start + token.column

/-- A token is at fault: it has another class than the one that is expected, it spells no flag, or its escapes
do not decode. -/
inductive Token.AtFault (token : Token) : GrammarFault → Prop where
  | expected {wanted : Token.Kind} (other : token.kind ≠ wanted) :
      AtFault token (.expected wanted token.kind)
  | unknownFlag (word : token.kind = .identifier) (unknown : Flag.ofWord? token.text = none) :
      AtFault token (.unknownFlag token.text)
  | badName {fault : Text.Quoted.Fault} (quoted : token.kind = .quoted)
      (bad : Text.Quoted.decode token.text = .error fault) : AtFault token (.badName token.text fault)

/-- What a token is at fault for is a cause of error at the token. -/
def Token.Explains (cause : Error → Prop) (token : Token) : Prop :=
  ∀ fault, token.AtFault fault → cause (.grammar token.place fault)

/-- A keyword with a spelling is spelled so. -/
theorem Keyword.word_of_ofWord? {word : Text} {keyword : Keyword} (known : Keyword.ofWord? word = some keyword) :
    word = keyword.word := by
  unfold ofWord? at known
  have spelled := List.find?_some known
  exact (of_decide_eq_true spelled).symm

namespace Directive

section

variable {cause : Error → Prop} {tokens : List Token}

/-- If another token than the next one is expected, the next one is at fault. -/
theorem expect_bind_explained (given : ∀ token ∈ tokens, token.Explains cause) {wanted : Token.Kind}
    {Result : Type} {next : Token × List Token → Except Stop Result}
    (following : ∀ token left, token.kind = wanted → token.Explains cause →
      (∀ other ∈ left, other.Explains cause) → Explained (next (token, left)) cause) :
    Explained (expect wanted tokens >>= next) cause := by
  refine Explained.bind ?_ fun (token, left) success => ?_
  · cases tokens with
    | nil => exact .of_broken rfl
    | cons token rest =>
        by_cases found : token.kind = wanted
        · exact .of_ok (by rw [expect, if_pos found])
        · exact .of_error (by rw [expect, if_neg found]; rfl) (given token List.mem_cons_self _ (.expected found))
  · obtain ⟨kind, rfl⟩ := expect_ok success
    obtain ⟨here, later⟩ := List.forall_mem_cons.1 given
    exact following token left kind here later

theorem name_explained {token : Token} (quoted : token.kind = .quoted) (given : token.Explains cause) :
    Explained (name token) cause := by
  unfold name
  split
  · cases decoded : Text.Quoted.decode token.text with
    | error fault => exact .of_error rfl (given _ (.badName quoted decoded))
    | ok text => exact .of_ok rfl
  · exact .of_ok rfl

theorem flags_explained (known : Flags) (given : ∀ token ∈ tokens, token.Explains cause) :
    Explained (flags known tokens) cause := by
  fun_induction flags known tokens with
  | case1 known comma word rest _ _ flag _ ih =>
      exact ih fun token member => given token (.tail _ (.tail _ member))
  | case2 known comma word rest _ isWord unknown =>
      exact .of_error rfl (given word (.tail _ List.mem_cons_self) _ (.unknownFlag isWord unknown))
  | case3 known comma word rest _ notWord =>
      exact .of_error rfl (given word (.tail _ List.mem_cons_self) _ (.expected notWord))
  | case4 => exact .of_ok rfl
  | case5 => exact .of_broken rfl
  | case6 => exact .of_ok rfl
  | case7 => exact .of_broken rfl

/-- A phrase is refused for one of its tokens. -/
theorem phrase_explained (keyword : Keyword) (given : ∀ token ∈ tokens, token.Explains cause) :
    Explained (phrase keyword tokens) cause := by
  cases keyword with
  | define =>
      refine expect_bind_explained given fun _ _ _ _ given => ?_
      refine expect_bind_explained given fun quoted _ kind explains given => ?_
      refine expect_bind_explained given fun _ _ _ _ _ => ?_
      exact (name_explained kind explains).bind fun _ _ => .of_ok rfl
  | replace =>
      refine expect_bind_explained given fun _ _ _ _ given => ?_
      refine expect_bind_explained given fun _ _ _ _ given => ?_
      refine expect_bind_explained given fun _ _ _ _ given => ?_
      refine expect_bind_explained given fun _ _ _ _ given => ?_
      refine (flags_explained .empty given).bind fun (_, left) success => ?_
      have rest : ∀ token ∈ left, token.Explains cause := fun token member =>
        given token ((flags_suffix success).mem member)
      exact expect_bind_explained rest fun _ _ _ _ _ => .of_ok rfl
  | foreach =>
      refine expect_bind_explained given fun _ _ _ _ given => ?_
      refine expect_bind_explained given fun _ _ _ _ given => ?_
      refine expect_bind_explained given fun _ _ _ _ given => ?_
      refine expect_bind_explained given fun _ _ _ _ given => ?_
      exact expect_bind_explained given fun _ _ _ _ _ => .of_ok rfl
  | insert =>
      refine expect_bind_explained given fun _ _ _ _ given => ?_
      refine expect_bind_explained given fun _ _ _ _ given => ?_
      exact expect_bind_explained given fun _ _ _ _ _ => .of_ok rfl

theorem parseTerminated_explained (line lineStart : Nat) (given : ∀ token ∈ tokens, token.Explains cause) :
    Explained (parseTerminated line lineStart tokens) cause := by
  fun_induction parseTerminated line lineStart tokens with
  | case1 => exact .of_broken rfl
  | case2 => exact .of_ok rfl
  | case3 token rest _ _ _ ih => exact ih fun other member => given other (.tail _ member)
  | case4 token rest _ _ keyword _ stop failure =>
      have explained := phrase_explained keyword fun other member => given other (.tail _ member)
      rw [failure] at explained
      intro error same
      exact explained error (congrArg Except.error (Except.error.inj same))
  | case5 => exact .of_broken rfl
  | case6 token rest _ _ keyword _ instruction left success _ ih =>
      exact (ih fun other member => given other (.tail _ ((phrase_suffix success).mem member))).map _
  | case7 token rest _ _ ih => exact ih fun other member => given other (.tail _ member)

/-- The directives of a token line are refused for one of its tokens. -/
theorem parse_explained (line lineStart : Nat) (given : ∀ token ∈ tokens, token.Explains cause) :
    Explained (parse line lineStart tokens) cause := by
  unfold parse
  split
  · exact .of_ok rfl
  · exact parseTerminated_explained line lineStart given

end

/-- The token is the keyword of a directive, which has the place of it. -/
structure IsKeyword (directive : Directive) (token : Token) : Prop where
  kind : token.kind = .identifier
  text : token.text = directive.instruction.keyword.word
  place : token.place = ⟨directive.line, directive.column⟩

/-- A phrase gives an instruction with its keyword. -/
theorem phrase_keyword {keyword : Keyword} {tokens left : List Token} {instruction : Instruction}
    (success : phrase keyword tokens = .ok (instruction, left)) : instruction.keyword = keyword := by
  cases keyword with
  | define =>
      obtain ⟨_, _, _, _, _, _, _, _, _, rfl⟩ := define_ok success
      rfl
  | replace =>
      obtain ⟨_, _, _, _, _, _, _, _, _, _, _, _, _, _, rfl⟩ := replace_ok success
      rfl
  | foreach =>
      obtain ⟨_, _, _, _, _, _, _, _, _, _, _, rfl⟩ := foreach_ok success
      rfl
  | insert =>
      obtain ⟨_, _, _, _, _, _, _, rfl⟩ := insert_ok success
      rfl

section

variable {line lineStart : Nat} {tokens : List Token} {directives : List Directive}

/-- Each directive has its keyword among the tokens, in the same order. -/
theorem parseTerminated_keywords (placed : ∀ token ∈ tokens, token.InLine line lineStart)
    (success : parseTerminated line lineStart tokens = .ok directives) :
    List.SublistForall₂ IsKeyword directives tokens := by
  fun_induction parseTerminated line lineStart tokens generalizing directives with
  | case1 => cases success
  | case2 =>
      cases success
      exact .nil
  | case3 token rest _ _ _ ih => exact .cons_right (ih (List.forall_mem_cons.1 placed).2 success)
  | case4 => cases success
  | case5 => cases success
  | case6 token rest _ word keyword known instruction left read behind ih =>
      obtain ⟨here, later⟩ := List.forall_mem_cons.1 placed
      obtain ⟨others, parsed, rfl⟩ := map_ok success
      -- The phrase of the keyword is passed over, and what is behind it holds the other keywords.
      obtain ⟨passed, rfl⟩ := phrase_suffix read
      obtain ⟨found, same, sublist⟩ := List.sublistForall₂_iff.1
        (ih (fun other member => later other (List.mem_append_right passed member)) parsed)
      refine .cons ⟨word, ?_, ?_⟩
        (List.sublistForall₂_iff.2 ⟨found, same, sublist.trans (List.sublist_append_right passed left)⟩)
      · rw [phrase_keyword read]
        exact Keyword.word_of_ofWord? known
      · rw [Token.place, here.line, here.start, Nat.add_sub_cancel_left]
  | case7 token rest _ _ ih => exact .cons_right (ih (List.forall_mem_cons.1 placed).2 success)

/-- Each directive of a token line has its keyword among the tokens, in the same order. -/
theorem parse_keywords (placed : ∀ token ∈ tokens, token.InLine line lineStart)
    (success : parse line lineStart tokens = .ok directives) :
    List.SublistForall₂ IsKeyword directives tokens := by
  unfold parse at success
  split at success
  · cases success
    exact .nil
  · exact parseTerminated_keywords placed success

/-- Of directives with keywords among some tokens, each has its keyword there. -/
theorem exists_keyword (keywords : List.SublistForall₂ IsKeyword directives tokens) {directive : Directive}
    (member : directive ∈ directives) : ∃ token ∈ tokens, directive.IsKeyword token := by
  induction keywords with
  | nil => cases member
  | cons here _ ih =>
      rcases List.mem_cons.1 member with rfl | later
      · exact ⟨_, List.mem_cons_self, here⟩
      · obtain ⟨token, inside, same⟩ := ih later
        exact ⟨token, .tail _ inside, same⟩
  | cons_right _ ih =>
      obtain ⟨token, inside, same⟩ := ih member
      exact ⟨token, .tail _ inside, same⟩

end

end Directive

end Stencil
