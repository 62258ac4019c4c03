/-
This file holds the grammar of a directive line. It shows that the directives of a line are the phrases among its
tokens, and that the tokens split into phrases and other tokens in one way.
-/
import Stencil.Proofs.Directive.Blame
import Stencil.Proofs.Directive.Definition
import Stencil.Proofs.Outcome

namespace Stencil

/-- The token is an identifier that spells a keyword. -/
structure Token.Spells (token : Token) (keyword : Keyword) : Prop where
  kind : token.kind = .identifier
  text : token.text = keyword.word

/-- A string gives a name: the decoded string if it has a backslash, else what stands between its quotes. -/
def Token.Names (string : Token) (name : Text) : Prop :=
  if '\\' ∈ string.inner then Text.Quoted.decode string.text = .ok name else name = string.inner

theorem Keyword.ofWord?_eq_some_iff {word : Text} {keyword : Keyword} :
    Keyword.ofWord? word = some keyword ↔ word = keyword.word := by
  constructor
  · exact word_of_ofWord?
  · rintro rfl
    cases keyword <;> decide

theorem Flag.ofWord?_eq_some_iff {word : Text} {flag : Flag} : Flag.ofWord? word = some flag ↔ word = flag.word := by
  cases flag
  unfold ofWord?
  split
  · next same => exact iff_of_true rfl same
  · next other => exact iff_of_false nofun other

theorem Token.free_of_unknown {token : Token} (unknown : Keyword.ofWord? token.text = none) (keyword : Keyword) :
    ¬token.Spells keyword := by
  intro spells
  rw [spells.text, Keyword.ofWord?_eq_some_iff.2 rfl] at unknown
  cases unknown

theorem Token.free_of_kind {token : Token} (notWord : token.kind ≠ .identifier) (keyword : Keyword) :
    ¬token.Spells keyword :=
  fun spells => notWord spells.kind

/-- Behind an end of line that comes last there is nothing. -/
theorem Token.terminated_end {token : Token} {rest : List Token} (terminated : Token.Terminated (token :: rest))
    (ends : token.kind = .endOfLine) : rest = [] := by
  obtain ⟨before, last, same, _, others⟩ := terminated
  cases before with
  | nil => exact (List.cons.inj same).2
  | cons first before =>
      obtain ⟨rfl, _⟩ := List.cons.inj same
      exact absurd ends (others _ List.mem_cons_self)

namespace Directive

/-- The end of a replacement is its flags, each behind a comma, and a parenthesis. Some flags are known before. -/
inductive Flagged : (known : Flags) → List Token → (all : Flags) → Prop where
  | done {known : Flags} {closing : Token} (closes : closing.kind = .closeParen) : Flagged known [closing] known
  | next {known all : Flags} {flag : Flag} {comma word : Token} {rest : List Token} (isComma : comma.kind = .comma)
      (isWord : word.kind = .identifier) (isFlag : word.text = flag.word)
      (others : Flagged (known.insert flag) rest all) : Flagged known (comma :: word :: rest) all

/-- The tokens behind a keyword are the rest of its phrase, which asks for an instruction. The names that a string
may give are a parameter. -/
inductive Phrase (names : Token → Text → Prop) : Keyword → List Token → Instruction → Prop where
  | define {opening string closing : Token} {name : Text} (opens : opening.kind = .openParen)
      (isString : string.kind = .quoted) (named : names string name) (closes : closing.kind = .closeParen) :
      Phrase names .define [opening, string, closing] (.define name)
  | replace {opening pattern comma field : Token} {rest : List Token} {flags : Flags}
      (opens : opening.kind = .openParen) (isPattern : pattern.kind = .backticked) (isComma : comma.kind = .comma)
      (isField : field.kind = .accessor) (flagged : Flagged .empty rest flags) :
      Phrase names .replace (opening :: pattern :: comma :: field :: rest)
        (.replace pattern.inner field.path flags)
  | foreach {opening item colon collection closing : Token} (opens : opening.kind = .openParen)
      (isItem : item.kind = .accessor) (isColon : colon.kind = .colon) (isCollection : collection.kind = .accessor)
      (closes : closing.kind = .closeParen) :
      Phrase names .foreach [opening, item, colon, collection, closing] (.foreach item.path collection.path)
  | insert {opening field closing : Token} (opens : opening.kind = .openParen) (isField : field.kind = .accessor)
      (closes : closing.kind = .closeParen) : Phrase names .insert [opening, field, closing] (.insert field.path)

/-- An item of a directive line is a phrase, with its keyword apart, or another token. -/
inductive Item where
  | phrase (keyword : Token) (behind : List Token) (instruction : Instruction)
  | other (token : Token)

namespace Item

/-- The tokens of an item. -/
def tokens : Item → List Token
  | .phrase keyword behind _ => keyword :: behind
  | .other token => [token]

/-- The directive that an item gives in a line, with the column of its keyword. -/
def directive? (line lineStart : Nat) : Item → Option Directive
  | .phrase keyword _ instruction => some ⟨instruction, line, keyword.start - lineStart⟩
  | .other _ => none

/-- A phrase follows the grammar, and another token spells no keyword and ends no line. -/
inductive Formed (names : Token → Text → Prop) : Item → Prop where
  | phrase {keyword : Token} {word : Keyword} {behind : List Token} {instruction : Instruction}
      (spells : keyword.Spells word) (phrase : Phrase names word behind instruction) :
      Formed names (.phrase keyword behind instruction)
  | other {token : Token} (free : ∀ word, ¬token.Spells word) (goesOn : token.kind ≠ .endOfLine) :
      Formed names (.other token)

end Item

/-- The tokens of a line split into items before the end of line. -/
structure Splits (names : Token → Text → Prop) (items : List Item) (tokens : List Token) : Prop where
  formed : ∀ item ∈ items, item.Formed names
  split : ∃ ending : Token, ending.kind = .endOfLine ∧ tokens = items.flatMap Item.tokens ++ [ending]

section

variable {names : Token → Text → Prop} {tokens left : List Token} {instruction : Instruction} {keyword : Keyword}

theorem splits_nil : Splits names [] tokens ↔ ∃ ending : Token, ending.kind = .endOfLine ∧ tokens = [ending] :=
  ⟨fun splits => splits.split, fun split => ⟨nofun, split⟩⟩

theorem splits_cons {item : Item} {items : List Item} : Splits names (item :: items) tokens ↔
    item.Formed names ∧ ∃ rest, tokens = item.tokens ++ rest ∧ Splits names items rest := by
  constructor
  · rintro ⟨formed, ending, ends, rfl⟩
    obtain ⟨here, later⟩ := List.forall_mem_cons.1 formed
    exact ⟨here, _, by rw [List.flatMap_cons, List.append_assoc], later, ending, ends, rfl⟩
  · rintro ⟨here, _, rfl, later, ending, ends, rfl⟩
    exact ⟨List.forall_mem_cons.2 ⟨here, later⟩, ending, ends, by rw [List.flatMap_cons, List.append_assoc]⟩

/-- The name that is read from a string is the one that it gives. -/
theorem name_ok_iff {string : Token} {text : Text} : name string = .ok text ↔ string.Names text := by
  rw [name, Token.Names]
  simp only [List.contains_iff_mem]
  split
  · cases Text.Quoted.decode string.text with
    | error fault => exact iff_of_false (fun same => by cases same) (fun same => by cases same)
    | ok decoded => exact Except.ok.injEq decoded text ▸ (Except.ok.injEq decoded text ▸ Iff.rfl)
  · exact ⟨fun same => (Except.ok.inj same).symm, fun same => congrArg Except.ok same.symm⟩

/-- What is read as flags and a parenthesis behind them is the end of a replacement. -/
theorem flags_ok {known all : Flags} {closing : Token} (isClosing : closing.kind = .closeParen)
    (read : flags known tokens = .ok (all, closing :: left)) :
    ∃ rest, tokens = rest ++ left ∧ Flagged known rest all := by
  fun_induction flags known tokens with
  | case1 known comma word rest isComma isWord flag isFlag ih =>
      obtain ⟨others, rfl, flagged⟩ := ih read
      exact ⟨comma :: word :: others, rfl, .next isComma isWord (Flag.ofWord?_eq_some_iff.1 isFlag) flagged⟩
  | case2 => cases read
  | case3 => cases read
  | case4 =>
      cases read
      exact ⟨[closing], rfl, .done isClosing⟩
  | case5 => cases read
  | case6 =>
      cases read
      exact ⟨[closing], rfl, .done isClosing⟩
  | case7 => cases read

/-- The end of a replacement is read as its flags and the parenthesis. -/
theorem Flagged.read {known all : Flags} {rest : List Token} (flagged : Flagged known rest all) (left : List Token) :
    ∃ closing, flags known (rest ++ left) = .ok (all, closing :: left) ∧ closing.kind = .closeParen := by
  induction flagged with
  | @done known closing closes =>
      have notComma : closing.kind ≠ .comma := by
        rw [closes]
        decide
      refine ⟨closing, ?_, closes⟩
      cases left with
      | nil => exact if_neg notComma
      | cons next more => exact if_neg notComma
  | next isComma isWord isFlag _ ih =>
      obtain ⟨closing, read, closes⟩ := ih
      refine ⟨closing, ?_, closes⟩
      rw [List.cons_append, List.cons_append, flags, if_pos isComma, if_pos isWord, Flag.ofWord?_eq_some_iff.2 isFlag]
      exact read

/-- What is read behind a keyword is the rest of its phrase. -/
theorem phrase_ok (success : phrase keyword tokens = .ok (instruction, left)) :
    ∃ behind, tokens = behind ++ left ∧ Phrase Token.Names keyword behind instruction := by
  cases keyword with
  | define =>
      obtain ⟨_, _, _, _, rfl, opens, isString, closes, named, rfl⟩ := define_ok success
      exact ⟨[_, _, _], rfl, .define opens isString (name_ok_iff.1 named) closes⟩
  | replace =>
      obtain ⟨_, _, _, _, _, _, _, rfl, opens, isPattern, isComma, isField, read, closes, rfl⟩ := replace_ok success
      obtain ⟨rest, rfl, flagged⟩ := flags_ok closes read
      exact ⟨_ :: _ :: _ :: _ :: rest, rfl, .replace opens isPattern isComma isField flagged⟩
  | foreach =>
      obtain ⟨_, _, _, _, _, rfl, opens, isItem, isColon, isCollection, closes, rfl⟩ := foreach_ok success
      exact ⟨[_, _, _, _, _], rfl, .foreach opens isItem isColon isCollection closes⟩
  | insert =>
      obtain ⟨_, _, _, rfl, opens, isField, closes, rfl⟩ := insert_ok success
      exact ⟨[_, _, _], rfl, .insert opens isField closes⟩

/-- The rest of a phrase is read behind its keyword, whatever follows. -/
theorem Phrase.read {behind : List Token} (phrase : Phrase Token.Names keyword behind instruction)
    (left : List Token) : Directive.phrase keyword (behind ++ left) = .ok (instruction, left) := by
  cases phrase with
  | define opens isString named closes =>
      exact bind_of_ok (if_pos opens) (bind_of_ok (if_pos isString) (bind_of_ok (if_pos closes)
        (bind_of_ok (name_ok_iff.2 named) rfl)))
  | replace opens isPattern isComma isField flagged =>
      obtain ⟨closing, read, closes⟩ := flagged.read left
      exact bind_of_ok (if_pos opens) (bind_of_ok (if_pos isPattern) (bind_of_ok (if_pos isComma)
        (bind_of_ok (if_pos isField) (bind_of_ok read (bind_of_ok (if_pos closes) rfl)))))
  | foreach opens isItem isColon isCollection closes =>
      exact bind_of_ok (if_pos opens) (bind_of_ok (if_pos isItem) (bind_of_ok (if_pos isColon)
        (bind_of_ok (if_pos isCollection) (bind_of_ok (if_pos closes) rfl))))
  | insert opens isField closes =>
      exact bind_of_ok (if_pos opens) (bind_of_ok (if_pos isField) (bind_of_ok (if_pos closes) rfl))

/-- A token that spells no keyword is passed over. -/
theorem parseTerminated_other {line lineStart : Nat} {token : Token} (free : ∀ word, ¬token.Spells word)
    (goesOn : token.kind ≠ .endOfLine) (rest : List Token) :
    parseTerminated line lineStart (token :: rest) = parseTerminated line lineStart rest := by
  rw [parseTerminated, if_neg goesOn]
  split
  · next isWord =>
      cases known : Keyword.ofWord? token.text with
      | none => rfl
      | some word => exact absurd ⟨isWord, Keyword.ofWord?_eq_some_iff.1 known⟩ (free word)
  · rfl

end

section

variable {line lineStart : Nat} {tokens : List Token} {directives : List Directive}

/-- The directives that are parsed are the phrases of a split of the tokens. -/
theorem parseTerminated_splits (terminated : Token.Terminated tokens)
    (success : parseTerminated line lineStart tokens = .ok directives) :
    ∃ items, Splits Token.Names items tokens ∧ directives = items.filterMap (Item.directive? line lineStart) := by
  fun_induction parseTerminated line lineStart tokens generalizing directives with
  | case1 => cases success
  | case2 token rest ends =>
      cases success
      exact ⟨[], splits_nil.2 ⟨token, ends, congrArg _ (Token.terminated_end terminated ends)⟩, rfl⟩
  | case3 token rest goesOn isWord unknown ih =>
      obtain ⟨items, splits, rfl⟩ := ih ((Token.terminated_cons goesOn).1 terminated) success
      exact ⟨.other token :: items, splits_cons.2
        ⟨.other (Token.free_of_unknown unknown) goesOn, rest, rfl, splits⟩, rfl⟩
  | case4 => cases success
  | case5 => cases success
  | case6 token rest goesOn isWord word known instruction left read _ ih =>
      obtain ⟨others, parsed, rfl⟩ := map_ok success
      have leaves := (phrase_safe word ((Token.terminated_cons goesOn).1 terminated)).effect _ read
      obtain ⟨items, splits, rfl⟩ := ih leaves.1 parsed
      obtain ⟨behind, rfl, phrase⟩ := phrase_ok read
      exact ⟨.phrase token behind instruction :: items, splits_cons.2
        ⟨.phrase ⟨isWord, Keyword.ofWord?_eq_some_iff.1 known⟩ phrase, left, rfl, splits⟩, rfl⟩
  | case7 token rest goesOn notWord ih =>
      obtain ⟨items, splits, rfl⟩ := ih ((Token.terminated_cons goesOn).1 terminated) success
      exact ⟨.other token :: items, splits_cons.2
        ⟨.other (Token.free_of_kind notWord) goesOn, rest, rfl, splits⟩, rfl⟩

/-- The phrases of a split of the tokens are parsed. -/
theorem Splits.parse {items : List Item} (splits : Splits Token.Names items tokens)
    (behind : ∀ token ∈ tokens, lineStart ≤ token.start) :
    parseTerminated line lineStart tokens = .ok (items.filterMap (Item.directive? line lineStart)) := by
  induction items generalizing tokens with
  | nil =>
      obtain ⟨ending, ends, rfl⟩ := splits_nil.1 splits
      rw [parseTerminated, if_pos ends]
      rfl
  | cons item items ih =>
      obtain ⟨formed, rest, rfl, later⟩ := splits_cons.1 splits
      have parsed := ih later fun token member => behind token (List.mem_append_right _ member)
      cases formed with
      | phrase spells phrase =>
          refine (parseTerminated_keyword spells.kind (Keyword.ofWord?_eq_some_iff.2 spells.text) (phrase.read rest)
            (behind _ List.mem_cons_self)).trans ?_
          rw [parsed]
          rfl
      | other free goesOn => exact (parseTerminated_other free goesOn rest).trans parsed

/-- An item does not begin with an end of line. -/
theorem Item.Formed.tokens_ne {names : Token → Text → Prop} {item : Item} (formed : item.Formed names)
    {ending : Token} (ends : ending.kind = .endOfLine) (rest : List Token) : item.tokens ++ rest ≠ [ending] := by
  intro same
  cases formed with
  | phrase spells =>
      obtain ⟨rfl, _⟩ := List.cons.inj same
      cases spells.kind.symm.trans ends
  | other _ goesOn =>
      obtain ⟨rfl, _⟩ := List.cons.inj same
      exact goesOn ends

/-- At the head of some tokens there is one item. -/
theorem Item.Formed.unique {first second : Item} {rest left : List Token} (formed : first.Formed Token.Names)
    (also : second.Formed Token.Names) (same : first.tokens ++ rest = second.tokens ++ left) :
    first = second ∧ rest = left := by
  cases formed with
  | @phrase keyword word behind instruction spells phrase =>
      cases also with
      | @phrase _ _ others _ spellsToo phraseToo =>
          obtain ⟨rfl, tails⟩ := List.cons.inj same
          have tails : behind ++ rest = others ++ left := tails
          have known := Keyword.ofWord?_eq_some_iff.2 spells.text
          rw [Keyword.ofWord?_eq_some_iff.2 spellsToo.text] at known
          cases known
          -- The reader takes both phrases from the same tokens.
          have read := phrase.read rest
          rw [tails, phraseToo.read left] at read
          cases read
          obtain rfl := List.append_cancel_right tails
          exact ⟨rfl, rfl⟩
      | other free =>
          obtain ⟨rfl, _⟩ := List.cons.inj same
          exact absurd spells (free _)
  | other free =>
      cases also with
      | phrase spells =>
          obtain ⟨rfl, _⟩ := List.cons.inj same
          exact absurd spells (free _)
      | other =>
          obtain ⟨rfl, rfl⟩ := List.cons.inj same
          exact ⟨rfl, rfl⟩

/-- Tokens split into items in one way. -/
theorem Splits.unique {items others : List Item} (splits : Splits Token.Names items tokens)
    (also : Splits Token.Names others tokens) : items = others := by
  induction items generalizing tokens others with
  | nil =>
      obtain ⟨ending, ends, rfl⟩ := splits_nil.1 splits
      cases others with
      | nil => rfl
      | cons other others =>
          obtain ⟨formed, rest, same, _⟩ := splits_cons.1 also
          exact absurd same.symm (formed.tokens_ne ends rest)
  | cons item items ih =>
      obtain ⟨formed, rest, rfl, later⟩ := splits_cons.1 splits
      cases others with
      | nil =>
          obtain ⟨ending, ends, same⟩ := splits_nil.1 also
          exact absurd same (formed.tokens_ne ends rest)
      | cons other others =>
          obtain ⟨formedToo, left, same, laterToo⟩ := splits_cons.1 also
          obtain ⟨rfl, rfl⟩ := formed.unique formedToo same
          rw [ih later laterToo]

end

end Directive

end Stencil
