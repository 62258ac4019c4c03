/-
This file joins the grammar of a directive line with the refusals: what the parser takes are the lines of the grammar,
and what it refuses is the first token that does not fit, or a string that does not decode.
-/
import Stencil.Proofs.Directive.Misfit
import Stencil.Proofs.Token.Language

namespace Stencil

/-- The tokens of a text stand behind its start, and an end of line comes last. -/
theorem Token.scan_terminated {line column start : Nat} {text : Text} {tokens : List Token}
    (success : Token.scan line column start text = .ok tokens) :
    Token.Terminated tokens ∧ ∀ token ∈ tokens, start ≤ token.start := by
  obtain ⟨words, rfl, covers⟩ := Token.scan_covers success
  refine ⟨⟨words, _, rfl, rfl, fun token member => (covers.longest token member).goesOn⟩, ?_⟩
  rw [List.forall_mem_append, List.forall_mem_singleton]
  refine ⟨fun token member => ?_, Nat.le_add_right _ _⟩
  obtain ⟨before, _, _, offset, _⟩ := (covers.longest token member).split
  rw [offset]
  exact Nat.le_add_right _ _

namespace Directive

open Token.Language

/-- The lines of the grammar, in which any string gives a name. -/
def IsLine : Token.Language := fun tokens => ∃ items, Splits (fun _ _ => True) items tokens

/-- A string that does not decode comes behind some items, in a definition. -/
structure Undecoded (tokens : List Token) (string : Token) (cause : Text.Quoted.Fault) : Prop where
  escaped : '\\' ∈ string.inner
  decoded : Text.Quoted.decode string.text = .error cause
  split : ∃ (items : List Item) (keyword opening closing : Token) (left : List Token),
    tokens = items.flatMap Item.tokens ++ keyword :: opening :: string :: closing :: left ∧
      (∀ item ∈ items, item.Formed Token.Names) ∧ keyword.Spells .define ∧ opening.kind = .openParen ∧
      string.kind = .quoted ∧ closing.kind = .closeParen

/-- Some token does not fit, and texts with the tokens before it have them at the same places. -/
structure Unfit (line column start : Nat) (tokens : List Token) (token : Token) : Prop where
  split : ∃ passed left, tokens = passed ++ token :: left ∧
    (∃ text more, Token.scan line column start text = .ok (passed ++ more) ∧ IsLine (passed ++ more)) ∧
    ∀ more, ¬IsLine (passed ++ token :: more)

section

variable {rest : Token.Language} {tokens left : List Token} {token : Token} {keyword : Keyword}

theorem afterFlags_iff (known : Flags) : AfterFlags rest tokens ↔
    ∃ flags left all, tokens = flags ++ left ∧ Flagged known flags all ∧ rest left := by
  constructor
  · intro among
    induction among generalizing known with
    | @done closing tokens closes behind => exact ⟨[closing], tokens, known, rfl, .done closes, behind⟩
    | @next flag comma word tokens isComma isWord isFlag _ ih =>
        obtain ⟨flags, left, all, rfl, flagged, behind⟩ := ih (known.insert flag)
        exact ⟨comma :: word :: flags, left, all, rfl, .next isComma isWord isFlag flagged, behind⟩
  · rintro ⟨flags, left, all, rfl, flagged, behind⟩
    induction flagged with
    | done closes => exact .done closes behind
    | next isComma isWord isFlag _ ih => exact .next isComma isWord isFlag ih

/-- The language behind a keyword has the phrases, and behind them the tokens of another language. -/
theorem afterPhrase_iff : afterPhrase rest keyword tokens ↔
    ∃ behind left instruction, tokens = behind ++ left ∧ Phrase (fun _ _ => True) keyword behind instruction ∧
      rest left := by
  constructor
  · intro among
    cases keyword with
    | define =>
        obtain ⟨opens, isString, closes, behind⟩ := among
        exact ⟨[_, _, _], _, .define [], rfl, .define opens isString trivial closes, behind⟩
    | replace =>
        obtain ⟨opens, isPattern, isComma, isField, among⟩ := among
        obtain ⟨flags, left, all, rfl, flagged, behind⟩ := (afterFlags_iff .empty).1 among
        exact ⟨_ :: _ :: _ :: _ :: flags, left, _, rfl, .replace opens isPattern isComma isField flagged, behind⟩
    | foreach =>
        obtain ⟨opens, isItem, isColon, isCollection, closes, behind⟩ := among
        exact ⟨[_, _, _, _, _], _, _, rfl, .foreach opens isItem isColon isCollection closes, behind⟩
    | insert =>
        obtain ⟨opens, isField, closes, behind⟩ := among
        exact ⟨[_, _, _], _, _, rfl, .insert opens isField closes, behind⟩
  · rintro ⟨_, left, _, rfl, phrase, behind⟩
    cases phrase with
    | define opens isString _ closes => exact .next opens (.next isString (.next closes behind))
    | replace opens isPattern isComma isField flagged =>
        exact .next opens (.next isPattern (.next isComma (.next isField
          ((afterFlags_iff .empty).2 ⟨_, left, _, rfl, flagged, behind⟩))))
    | foreach opens isItem isColon isCollection closes =>
        exact .next opens (.next isItem (.next isColon (.next isCollection (.next closes behind))))
    | insert opens isField closes => exact .next opens (.next isField (.next closes behind))

theorem isLine_other (free : ∀ word, ¬token.Spells word) (goesOn : token.kind ≠ .endOfLine) :
    IsLine (token :: tokens) ↔ IsLine tokens := by
  constructor
  · rintro ⟨items, splits⟩
    cases items with
    | nil =>
        obtain ⟨ending, ends, same⟩ := splits_nil.1 splits
        obtain ⟨rfl, _⟩ := List.cons.inj same
        exact absurd ends goesOn
    | cons item items =>
        obtain ⟨formed, rest, same, later⟩ := splits_cons.1 splits
        cases formed with
        | phrase spells =>
            obtain ⟨rfl, _⟩ := List.cons.inj same
            exact absurd spells (free _)
        | other =>
            obtain ⟨_, rfl⟩ := List.cons.inj same
            exact ⟨items, later⟩
  · rintro ⟨items, splits⟩
    exact ⟨.other token :: items, splits_cons.2 ⟨.other free goesOn, tokens, rfl, splits⟩⟩

theorem isLine_keyword (spells : token.Spells keyword) :
    IsLine (token :: tokens) ↔ afterPhrase IsLine keyword tokens := by
  rw [afterPhrase_iff]
  constructor
  · rintro ⟨items, splits⟩
    cases items with
    | nil =>
        obtain ⟨ending, ends, same⟩ := splits_nil.1 splits
        obtain ⟨rfl, _⟩ := List.cons.inj same
        cases spells.kind.symm.trans ends
    | cons item items =>
        obtain ⟨formed, rest, same, later⟩ := splits_cons.1 splits
        cases formed with
        | @phrase _ word behind instruction spellsToo phrase =>
            obtain ⟨rfl, rfl⟩ := List.cons.inj same
            have known := Keyword.ofWord?_eq_some_iff.2 spells.text
            rw [Keyword.ofWord?_eq_some_iff.2 spellsToo.text] at known
            cases known
            exact ⟨behind, rest, instruction, rfl, phrase, items, later⟩
        | other free =>
            obtain ⟨rfl, _⟩ := List.cons.inj same
            exact absurd spells (free _)
  · rintro ⟨behind, left, instruction, rfl, phrase, items, splits⟩
    exact ⟨.phrase token behind instruction :: items,
      splits_cons.2 ⟨.phrase spells phrase, left, rfl, splits⟩⟩

theorem isLine_writable : IsLine.Writable :=
  ⟨[], fun _ _ _ => ⟨_, Token.scan_nil, [], splits_nil.2 ⟨_, rfl, rfl⟩⟩⟩

/-- What is refused, but for a name, is a token that does not fit on the line. -/
theorem parseTerminated_misfit {line lineStart : Nat} {place : Place} {fault : GrammarFault}
    (failure : parseTerminated line lineStart tokens = .error (.refused (.grammar place fault)))
    (notName : fault.isName = false) : ∃ token, place = token.place ∧ IsLine.Misfit tokens token := by
  fun_induction parseTerminated line lineStart tokens with
  | case1 => cases failure
  | case2 => cases failure
  | case3 token rest goesOn isWord unknown ih =>
      obtain ⟨other, located, misfit⟩ := ih failure
      have same (more : List Token) : IsLine ([token] ++ more) ↔ IsLine more :=
        isLine_other (Token.free_of_unknown unknown) goesOn
      exact ⟨other, located, misfit.behind same⟩
  | case4 token rest goesOn isWord word known stop refused =>
      cases failure
      have spells : token.Spells word := ⟨isWord, Keyword.ofWord?_eq_some_iff.1 known⟩
      obtain ⟨other, located, misfit⟩ := (phrase_follows isLine_writable word).refuses place fault refused notName
      have same (more : List Token) : IsLine ([token] ++ more) ↔ afterPhrase IsLine word more := isLine_keyword spells
      exact ⟨other, located, misfit.behind same⟩
  | case5 => cases failure
  | case6 token rest goesOn isWord word known instruction left success _ ih =>
      have spells : token.Spells word := ⟨isWord, Keyword.ofWord?_eq_some_iff.1 known⟩
      obtain ⟨read, rfl, same⟩ := (phrase_follows isLine_writable word).reads instruction left success
      obtain ⟨other, located, misfit⟩ := ih (map_error failure)
      have behind : ∀ more, IsLine (token :: read ++ more) ↔ IsLine more := fun more =>
        (isLine_keyword spells).trans (same more)
      exact ⟨other, located, misfit.behind behind⟩
  | case7 token rest goesOn notWord ih =>
      obtain ⟨other, located, misfit⟩ := ih failure
      have same (more : List Token) : IsLine ([token] ++ more) ↔ IsLine more :=
        isLine_other (Token.free_of_kind notWord) goesOn
      exact ⟨other, located, misfit.behind same⟩

/-- The error is not that a name does not decode. -/
def Nameless (error : Error) : Prop := ∀ place fault, error = .grammar place fault → fault.isName = false

theorem expect_nameless (wanted : Token.Kind) (tokens : List Token) : Explained (expect wanted tokens) Nameless := by
  cases tokens with
  | nil => exact .of_broken rfl
  | cons token rest =>
      by_cases found : token.kind = wanted
      · exact .of_ok (by rw [expect, if_pos found])
      · refine .of_error (by rw [expect, if_neg found]) ?_
        rintro _ _ ⟨⟩
        rfl

theorem flags_nameless (known : Flags) (tokens : List Token) : Explained (flags known tokens) Nameless := by
  fun_induction flags known tokens with
  | case1 _ _ _ _ _ _ _ _ ih => exact ih
  | case2 =>
      refine .of_error rfl ?_
      rintro _ _ ⟨⟩
      rfl
  | case3 =>
      refine .of_error rfl ?_
      rintro _ _ ⟨⟩
      rfl
  | case4 => exact .of_ok rfl
  | case5 => exact .of_broken rfl
  | case6 => exact .of_ok rfl
  | case7 => exact .of_broken rfl

/-- No other phrase than a definition is refused for a name. -/
theorem phrase_nameless (other : keyword ≠ .define) : Explained (phrase keyword tokens) Nameless := by
  cases keyword with
  | define => exact absurd rfl other
  | replace =>
      refine (expect_nameless _ _).bind fun _ _ => ?_
      refine (expect_nameless _ _).bind fun _ _ => ?_
      refine (expect_nameless _ _).bind fun _ _ => ?_
      refine (expect_nameless _ _).bind fun _ _ => ?_
      refine (flags_nameless _ _).bind fun _ _ => ?_
      exact (expect_nameless _ _).bind fun _ _ => .of_ok rfl
  | foreach =>
      refine (expect_nameless _ _).bind fun _ _ => ?_
      refine (expect_nameless _ _).bind fun _ _ => ?_
      refine (expect_nameless _ _).bind fun _ _ => ?_
      refine (expect_nameless _ _).bind fun _ _ => ?_
      exact (expect_nameless _ _).bind fun _ _ => .of_ok rfl
  | insert =>
      refine (expect_nameless _ _).bind fun _ _ => ?_
      refine (expect_nameless _ _).bind fun _ _ => ?_
      exact (expect_nameless _ _).bind fun _ _ => .of_ok rfl

/-- A phrase that is refused for a name is a definition, read up to its closing parenthesis. -/
theorem phrase_undecoded {place : Place} {fault : GrammarFault}
    (failure : phrase keyword tokens = .error (.refused (.grammar place fault))) (isName : fault.isName = true) :
    keyword = .define ∧ ∃ (opening string closing : Token) (left : List Token) (cause : Text.Quoted.Fault),
      tokens = opening :: string :: closing :: left ∧ opening.kind = .openParen ∧ string.kind = .quoted ∧
        closing.kind = .closeParen ∧ '\\' ∈ string.inner ∧ Text.Quoted.decode string.text = .error cause ∧
          place = string.place ∧ fault = .badName string.text cause := by
  -- A refusal that is not for a name cannot be this one.
  have named {Result : Type} {outcome : Except Stop Result} (nameless : Explained outcome Nameless) :
      outcome ≠ .error (.refused (.grammar place fault)) := by
    intro failure
    cases isName.symm.trans (nameless _ failure place fault rfl)
  by_cases other : keyword = .define
  · subst other
    refine ⟨rfl, ?_⟩
    obtain stopped | ⟨⟨_, _⟩, first, failure⟩ := bind_error failure
    · exact absurd stopped (named (expect_nameless _ _))
    obtain stopped | ⟨⟨_, _⟩, second, failure⟩ := bind_error failure
    · exact absurd stopped (named (expect_nameless _ _))
    obtain stopped | ⟨⟨_, left⟩, third, failure⟩ := bind_error failure
    · exact absurd stopped (named (expect_nameless _ _))
    obtain stopped | ⟨_, _, failure⟩ := bind_error failure
    · obtain ⟨opens, rfl⟩ := expect_ok first
      obtain ⟨isString, rfl⟩ := expect_ok second
      obtain ⟨closes, rfl⟩ := expect_ok third
      obtain ⟨cause, escaped, decoded, same⟩ := name_error stopped
      cases same
      exact ⟨_, _, _, left, cause, rfl, opens, isString, closes, escaped, decoded, rfl, rfl⟩
    · cases failure
  · exact absurd failure (named (phrase_nameless other))

/-- Behind one more item a string does not decode either. -/
theorem Undecoded.behind {item : Item} (formed : item.Formed Token.Names) {string : Token} {cause : Text.Quoted.Fault}
    (undecoded : Undecoded tokens string cause) : Undecoded (item.tokens ++ tokens) string cause where
  escaped := undecoded.escaped
  decoded := undecoded.decoded
  split := by
    obtain ⟨items, keyword, opening, closing, left, rfl, all, facts⟩ := undecoded.split
    refine ⟨item :: items, keyword, opening, closing, left, ?_, List.forall_mem_cons.2 ⟨formed, all⟩, facts⟩
    rw [List.flatMap_cons, List.append_assoc]

/-- What is refused for a name is a string that does not decode. -/
theorem parseTerminated_undecoded {line lineStart : Nat} {place : Place} {fault : GrammarFault}
    (failure : parseTerminated line lineStart tokens = .error (.refused (.grammar place fault)))
    (isName : fault.isName = true) : ∃ string cause, Undecoded tokens string cause ∧ place = string.place ∧
      fault = .badName string.text cause := by
  fun_induction parseTerminated line lineStart tokens with
  | case1 => cases failure
  | case2 => cases failure
  | case3 token rest goesOn isWord unknown ih =>
      obtain ⟨string, cause, undecoded, facts⟩ := ih failure
      exact ⟨string, cause, undecoded.behind (.other (Token.free_of_unknown unknown) goesOn), facts⟩
  | case4 token rest goesOn isWord word known stop refused =>
      cases failure
      obtain ⟨rfl, opening, string, closing, left, cause, rfl, opens, isString, closes, escaped, decoded, facts⟩ :=
        phrase_undecoded refused isName
      have spells : token.Spells .define := ⟨isWord, Keyword.ofWord?_eq_some_iff.1 known⟩
      exact ⟨string, cause, ⟨escaped, decoded, [], token, opening, closing, left, rfl,
        fun _ member => (by cases member), spells, opens, isString, closes⟩, facts⟩
  | case5 => cases failure
  | case6 token rest goesOn isWord word known instruction left success _ ih =>
      obtain ⟨behind, rfl, phrase⟩ := phrase_ok success
      obtain ⟨string, cause, undecoded, facts⟩ := ih (map_error failure)
      exact ⟨string, cause,
        undecoded.behind (.phrase ⟨isWord, Keyword.ofWord?_eq_some_iff.1 known⟩ phrase), facts⟩
  | case7 token rest goesOn notWord ih =>
      obtain ⟨string, cause, undecoded, facts⟩ := ih failure
      exact ⟨string, cause, undecoded.behind (.other (Token.free_of_kind notWord) goesOn), facts⟩

end

/-- A token that does not fit on the line does not fit either if the tokens before it are those of a text. -/
theorem unfit_of_misfit {line column start : Nat} {text : Text} {tokens : List Token} {token : Token}
    (success : Token.scan line column start text = .ok tokens) (misfit : IsLine.Misfit tokens token) :
    Unfit line column start tokens token := by
  obtain ⟨passed, left, rfl, ⟨after, written⟩, never⟩ := misfit
  obtain ⟨before, _, _, _, front⟩ := Token.scan_front success
  obtain ⟨more, scanned, among⟩ := written line (column + Text.byteSize before + 1) (start + Text.byteSize before + 1)
  refine ⟨passed, left, rfl, ⟨before ++ ' ' :: after, more, ?_, among⟩, never⟩
  rw [Token.scan_space front, scanned]
  rfl

/-- The parser takes the tokens of a directive text exactly if they split into phrases and other tokens, which they do
in one way, and gives the directives of the phrases in order. It refuses a string that does not decode, behind items
of the line, or else the one token that no line has behind the tokens before it, though some line goes on from them
with other tokens. -/
theorem directives_follow_grammar {line column lineStart offset : Nat} {text : Text} {tokens : List Token}
    (success : Token.scan line column (lineStart + offset) text = .ok tokens) (number : Nat) :
    (∀ directives, parse number lineStart tokens = .ok directives ↔ ∃ items,
      Splits Token.Names items tokens ∧ directives = items.filterMap (Item.directive? number lineStart)) ∧
    (∀ items others, Splits Token.Names items tokens → Splits Token.Names others tokens → items = others) ∧
    ∀ stop, parse number lineStart tokens = .error stop → ∃ token ∈ tokens, ∃ fault,
      stop = .refused (.grammar token.place fault) ∧
        ((∃ cause, fault = .badName token.text cause ∧ Undecoded tokens token cause) ∨
          (fault.isName = false ∧ Unfit line column (lineStart + offset) tokens token)) := by
  obtain ⟨terminated, behind⟩ := Token.scan_terminated success
  have behind (token : Token) (member : token ∈ tokens) : lineStart ≤ token.start :=
    (Nat.le_add_right _ _).trans (behind token member)
  have nonempty : tokens ≠ [] := by
    obtain ⟨before, last, rfl, _⟩ := terminated
    exact List.append_ne_nil_of_right_ne_nil _ (List.cons_ne_nil _ _)
  have parsed : parse number lineStart tokens = parseTerminated number lineStart tokens := if_neg nonempty
  rw [parsed]
  refine ⟨fun directives => ⟨parseTerminated_splits terminated, ?_⟩, fun _ _ => Splits.unique, fun stop failure => ?_⟩
  · rintro ⟨items, splits, rfl⟩
    exact splits.parse behind
  · obtain ⟨error, _, rfl, _⟩ := (parseTerminated_safe number lineStart terminated behind).located stop failure
    have grammatical : ∃ place fault, error = .grammar place fault :=
      @parseTerminated_explained (fun error => ∃ place fault, error = .grammar place fault) _ number lineStart
        (fun token _ fault _ => ⟨token.place, fault, rfl⟩) error failure
    obtain ⟨place, fault, rfl⟩ := grammatical
    cases isName : fault.isName with
    | true =>
        obtain ⟨string, cause, undecoded, rfl, rfl⟩ := parseTerminated_undecoded failure isName
        obtain ⟨items, keyword, opening, closing, left, rfl, _⟩ := undecoded.split
        exact ⟨string, by simp, _, rfl, .inl ⟨cause, rfl, undecoded⟩⟩
    | false =>
        obtain ⟨token, rfl, misfit⟩ := parseTerminated_misfit failure isName
        have unfit := unfit_of_misfit success misfit
        obtain ⟨passed, left, rfl, _⟩ := unfit.split
        exact ⟨token, by simp, fault, rfl, .inr ⟨isName, unfit⟩⟩

/-- A line with a keyword in a string, a phrase behind free text, a flag that is given twice and the root field. -/
def mixedLine : Text :=
  "x (\"INSERT\" DEFINE(\"a\"), REPLACE(`p`, $f, REMOVE_IF_NULL, REMOVE_IF_NULL) INSERT($) :".toList

/-- A line on which a keyword comes in place of a flag. -/
def keywordForFlag : Text := "INSERT($) REPLACE(`p`, $f, DEFINE(\"a\"))".toList

/-- A line with a string that does not decode, behind a phrase. -/
def badEscape : Text := "INSERT($) DEFINE(\"\\q\") INSERT(".toList

theorem directives_follow_grammar_mixed :
    (∃ tokens items, Token.scan 3 7 47 mixedLine = .ok tokens ∧ Splits Token.Names items tokens ∧
      items.filterMap (Item.directive? 3 40) = [⟨.define ['a'], 3, 19⟩,
        ⟨.replace ['p'] ['f'] (Flags.insert .empty .removeIfNull), 3, 32⟩, ⟨.insert [], 3, 81⟩]) ∧
    (∃ tokens, ∃ token ∈ tokens, Token.scan 3 7 47 keywordForFlag = .ok tokens ∧ token.place = ⟨3, 34⟩ ∧
      Unfit 3 7 47 tokens token) ∧
    ∃ tokens token cause, Token.scan 3 7 47 badEscape = .ok tokens ∧ token.place = ⟨3, 24⟩ ∧
      Undecoded tokens token cause := by
  have first : ∃ tokens, Token.scan 3 7 (40 + 7) mixedLine = .ok tokens ∧
      parse 3 40 tokens = .ok [⟨.define ['a'], 3, 19⟩,
        ⟨.replace ['p'] ['f'] (Flags.insert .empty .removeIfNull), 3, 32⟩, ⟨.insert [], 3, 81⟩] :=
    ⟨(Token.scan 3 7 47 mixedLine).toOption.getD [], by decide +kernel, by decide +kernel⟩
  have second : ∃ tokens, Token.scan 3 7 (40 + 7) keywordForFlag = .ok tokens ∧
      parse 3 40 tokens = .error (.refused (.grammar ⟨3, 34⟩ (.unknownFlag Keyword.define.word))) :=
    ⟨(Token.scan 3 7 47 keywordForFlag).toOption.getD [], by decide +kernel, by decide +kernel⟩
  have third : ∃ tokens, Token.scan 3 7 (40 + 7) badEscape = .ok tokens ∧ parse 3 40 tokens =
      .error (.refused (.grammar ⟨3, 24⟩ (.badName "\"\\q\"".toList (.unknownEscape ['\\', 'q'] 2)))) :=
    ⟨(Token.scan 3 7 47 badEscape).toOption.getD [], by decide +kernel, by decide +kernel⟩
  refine ⟨?_, ?_, ?_⟩
  · obtain ⟨tokens, scanned, parsed⟩ := first
    obtain ⟨items, splits, same⟩ := ((directives_follow_grammar scanned 3).1 _).1 parsed
    exact ⟨tokens, items, scanned, splits, same.symm⟩
  · obtain ⟨tokens, scanned, refused⟩ := second
    obtain ⟨token, member, fault, same, ⟨cause, rfl, _⟩ | ⟨_, unfit⟩⟩ :=
      (directives_follow_grammar scanned 3).2.2 _ refused
    · injection same with same
      injection same with _ same
      cases same
    · injection same with same
      injection same with located
      exact ⟨tokens, token, member, scanned, located.symm, unfit⟩
  · obtain ⟨tokens, scanned, refused⟩ := third
    obtain ⟨token, member, fault, same, ⟨cause, rfl, undecoded⟩ | ⟨isName, _⟩⟩ :=
      (directives_follow_grammar scanned 3).2.2 _ refused
    · injection same with same
      injection same with located
      exact ⟨tokens, token, cause, scanned, located.symm, undecoded⟩
    · injection same with same
      injection same with _ same
      cases same
      cases isName

end Directive

end Stencil
