/-
This file shows where a directive line is refused: at the first token that no line of the grammar has behind the
tokens before it, or at a string whose escapes do not decode.
-/
import Stencil.Proofs.Directive.Grammar
import Stencil.Proofs.Token.Splice

namespace Stencil

open Text

/-- A language is a set of token lists. -/
abbrev Token.Language := List Token → Prop

/-- Before a shorter rest of the text a lexeme is still the longest word of its class. -/
theorem Lexeme.Longest.before {lexeme : Lexeme} {part more : Text} (longest : lexeme.Longest (part ++ more)) :
    lexeme.Longest part where
  spelled := longest.spelled
  longest other spelled same leads := longest.longest other spelled same (by
    rw [← List.append_assoc]
    exact leads.trans (List.prefix_append _ more))

namespace Token

/-- Some tokens of a text but the last are the tokens of a text that it begins with. -/
theorem scan_front {line column start : Nat} {text : Text} {passed left : List Token} {token : Token}
    (success : scan line column start text = .ok (passed ++ token :: left)) :
    ∃ before after ending, text = before ++ after ∧ scan line column start before = .ok (passed ++ [ending]) := by
  fun_induction scan line column start text generalizing passed with
  | case1 column start =>
      cases passed with
      | nil => exact ⟨[], [], _, rfl, scan_nil⟩
      | cons first passed =>
          have length := congrArg List.length (Except.ok.inj success)
          simp at length
  | case2 => cases success
  | case3 column start text lexeme after found width =>
      rename_i ih
      obtain ⟨others, scanned, same⟩ := map_ok success
      obtain ⟨rfl, longest⟩ := Lexeme.read?_eq_some_iff.1 found
      obtain ⟨kind?, word⟩ := lexeme
      cases kind? with
      | none =>
          subst same
          obtain ⟨before, rest, ending, rfl, front⟩ := ih scanned
          cases longest.spelled with
          | blanks _ blank => exact ⟨word ++ before, rest, ending, by simp, (scan_skip blank before).trans front⟩
      | some kind =>
          cases passed with
          | nil => exact ⟨[], word ++ after, _, rfl, scan_nil⟩
          | cons first passed =>
              obtain ⟨rfl, rfl⟩ := List.cons.inj same
              obtain ⟨before, rest, ending, rfl, front⟩ := ih scanned
              refine ⟨word ++ before, rest, ending, by simp, scan_token ?_ front⟩
              exact Lexeme.read?_eq_some_iff.2 ⟨rfl, longest.before⟩

/-- A text that is cut into tokens may stand before a space and another text. -/
theorem scan_space {line column start : Nat} {first : Text} {words : List Token} {ending : Token}
    (front : scan line column start first = .ok (words ++ [ending])) (second : Text) :
    scan line column start (first ++ ' ' :: second) =
      (scan line (column + byteSize first + 1) (start + byteSize first + 1) second).map (words ++ ·) := by
  rw [scan_before_blank front rfl, List.dropLast_concat]
  exact congrArg (Except.map _) (@scan_skip line _ _ [' '] rfl second)

/-- Each class but the end of line has a word. -/
theorem Kind.exists_spelled {kind : Kind} (goesOn : kind ≠ .endOfLine) : ∃ word, Lexeme.Spelled ⟨some kind, word⟩ := by
  cases kind with
  | identifier => exact ⟨['_'], .identifier ⟨'_', [], rfl, rfl, nofun⟩⟩
  | accessor => exact ⟨_, .accessor (.inl rfl)⟩
  | quoted => exact ⟨_, .quoted .nil⟩
  | backticked => exact ⟨_, .backticked List.not_mem_nil⟩
  | openParen => exact ⟨_, .openParen⟩
  | closeParen => exact ⟨_, .closeParen⟩
  | comma => exact ⟨_, .comma⟩
  | colon => exact ⟨_, .colon⟩
  | endOfLine => exact absurd rfl goesOn

namespace Language

/-- Some text is cut into tokens of the language, wherever it stands. -/
def Writable (language : Language) : Prop :=
  ∃ text, ∀ line column start, ∃ tokens, scan line column start text = .ok tokens ∧ language tokens

/-- A token of a class, and behind it tokens of a language. -/
inductive After (kind : Kind) (rest : Language) : Language where
  | next {token : Token} {tokens : List Token} (fits : token.kind = kind) (behind : rest tokens) :
      After kind rest (token :: tokens)

/-- The end of a replacement, and behind it tokens of a language. -/
inductive AfterFlags (rest : Language) : Language where
  | done {closing : Token} {tokens : List Token} (closes : closing.kind = .closeParen) (behind : rest tokens) :
      AfterFlags rest (closing :: tokens)
  | next {flag : Flag} {comma word : Token} {tokens : List Token} (isComma : comma.kind = .comma)
      (isWord : word.kind = .identifier) (isFlag : word.text = flag.word) (others : AfterFlags rest tokens) :
      AfterFlags rest (comma :: word :: tokens)

/-- The rest of a phrase, and behind it tokens of a language. -/
def afterPhrase (rest : Language) : Keyword → Language
  | .define => After .openParen (After .quoted (After .closeParen rest))
  | .replace => After .openParen (After .backticked (After .comma (After .accessor (AfterFlags rest))))
  | .foreach => After .openParen (After .accessor (After .colon (After .accessor (After .closeParen rest))))
  | .insert => After .openParen (After .accessor (After .closeParen rest))

/-- A token does not fit: with some more tokens behind them, the tokens before it are in the language, and with it
behind them they are not. -/
def Misfit (language : Language) (tokens : List Token) (token : Token) : Prop :=
  ∃ passed left, tokens = passed ++ token :: left ∧ Writable (fun more => language (passed ++ more)) ∧
    ∀ more, ¬language (passed ++ token :: more)

variable {language rest : Language} {kind : Kind} {tokens left read : List Token} {token : Token}

theorem Writable.imp (writable : rest.Writable) (weaker : ∀ tokens, rest tokens → language tokens) :
    language.Writable := by
  obtain ⟨text, written⟩ := writable
  refine ⟨text, fun line column start => ?_⟩
  obtain ⟨tokens, scanned, among⟩ := written line column start
  exact ⟨tokens, scanned, weaker tokens among⟩

/-- Any word may be written before tokens that can be written. -/
theorem Writable.word {word : Text} (spelled : Lexeme.Spelled ⟨some kind, word⟩) (writable : rest.Writable) :
    Writable fun tokens => ∃ token others, tokens = token :: others ∧ token.kind = kind ∧ token.text = word ∧
      rest others := by
  obtain ⟨text, written⟩ := writable
  refine ⟨word ++ ' ' :: text, fun line column start => ?_⟩
  obtain ⟨others, scanned, among⟩ := written line (column + byteSize word + 1) (start + byteSize word + 1)
  refine ⟨_, ?_, ⟨kind, start, word, line, column⟩, others, rfl, rfl, rfl, among⟩
  rw [@scan_space line column start word [_] _ (scan_alone spelled), scanned]
  rfl

theorem Writable.after (goesOn : kind ≠ .endOfLine) (writable : rest.Writable) : (After kind rest).Writable := by
  obtain ⟨word, spelled⟩ := Kind.exists_spelled goesOn
  refine (writable.word spelled).imp ?_
  rintro _ ⟨token, others, rfl, fits, _, behind⟩
  exact .next fits behind

theorem Writable.afterFlags (writable : rest.Writable) : (AfterFlags rest).Writable := by
  refine (writable.word .closeParen).imp ?_
  rintro _ ⟨closing, others, rfl, closes, _, behind⟩
  exact .done closes behind

theorem after_cons (fits : token.kind = kind) : After kind rest (token :: tokens) ↔ rest tokens :=
  ⟨fun | .next _ behind => behind, .next fits⟩

/-- What does not fit behind tokens that are cut off does not fit behind them. -/
theorem Misfit.behind (same : ∀ more, language (read ++ more) ↔ rest more) (misfit : rest.Misfit left token) :
    language.Misfit (read ++ left) token := by
  obtain ⟨passed, after, rfl, writable, never⟩ := misfit
  refine ⟨read ++ passed, after, by rw [List.append_assoc], writable.imp fun more among => ?_, fun more among => ?_⟩
  · rw [List.append_assoc]
    exact (same _).2 among
  · rw [List.append_assoc] at among
    exact never more ((same _).1 among)

end Language

end Token

/-- The fault is that a string does not decode to a name. -/
def GrammarFault.isName : GrammarFault → Bool
  | .badName .. => true
  | .expected .. | .unknownFlag _ => false

namespace Directive

open Token.Language

/-- An outcome of a reader follows a language with another one behind it: what is read can be cut off, and what is
refused, but for a name, is a token that does not fit. -/
structure Follows {Result : Type} (rest : Token.Language) (outcome : Except Stop (Result × List Token))
    (tokens : List Token) (language : Token.Language) : Prop where
  reads : ∀ result left, outcome = .ok (result, left) →
    ∃ read, tokens = read ++ left ∧ ∀ more, language (read ++ more) ↔ rest more
  refuses : ∀ place fault, outcome = .error (.refused (.grammar place fault)) → fault.isName = false →
    ∃ token, place = token.place ∧ language.Misfit tokens token

section

variable {First Second : Type} {rest middle language : Token.Language} {tokens : List Token}

/-- A token that is not in the class that is expected does not fit. -/
theorem expect_follows {wanted : Token.Kind} (goesOn : wanted ≠ .endOfLine) (writable : rest.Writable) :
    Follows rest (expect wanted tokens) tokens (After wanted rest) where
  reads token left success := by
    obtain ⟨fits, rfl⟩ := expect_ok success
    exact ⟨[token], rfl, fun more => after_cons fits⟩
  refuses place fault failure _ := by
    unfold expect at failure
    split at failure
    · cases failure
    · next token left =>
        split at failure
        · cases failure
        · next misses =>
            cases failure
            refine ⟨token, rfl, [], left, rfl, writable.after goesOn, fun more among => ?_⟩
            cases among with
            | next fits => exact misses fits

/-- Two readers follow a language if the first does and the second goes on behind it. -/
theorem Follows.bind {outcome : Except Stop (First × List Token)} (first : Follows middle outcome tokens language)
    {next : First × List Token → Except Stop (Second × List Token)}
    (second : ∀ value left, outcome = .ok (value, left) → Follows rest (next (value, left)) left middle) :
    Follows rest (outcome >>= next) tokens language where
  reads result left success := by
    obtain ⟨⟨value, between⟩, done, following⟩ := bind_ok success
    obtain ⟨read, rfl, same⟩ := first.reads value between done
    obtain ⟨more, rfl, also⟩ := (second value between done).reads result left following
    refine ⟨read ++ more, (List.append_assoc ..).symm, fun others => ?_⟩
    rw [List.append_assoc, same, also]
  refuses place fault failure notName := by
    rcases bind_error failure with stopped | ⟨⟨value, between⟩, done, following⟩
    · exact first.refuses place fault stopped notName
    · obtain ⟨read, rfl, same⟩ := first.reads value between done
      obtain ⟨token, located, misfit⟩ := (second value between done).refuses place fault following notName
      exact ⟨token, located, misfit.behind same⟩

/-- What reads nothing more follows the language behind it. -/
theorem follows_ok (result : First) : Follows rest (.ok (result, tokens)) tokens rest where
  reads _ _ success := by
    cases success
    exact ⟨[], rfl, fun _ => .rfl⟩
  refuses _ _ failure := nomatch failure

theorem follows_of_broken {outcome : Except Stop (First × List Token)} {breach : Breach}
    (failure : outcome = .error (.broken breach)) : Follows rest outcome tokens language where
  reads _ _ success := by
    rw [failure] at success
    cases success
  refuses _ _ refused := by
    rw [failure] at refused
    cases refused

/-- What is refused at a token that does not fit follows the language. -/
theorem follows_of_misfit {outcome : Except Stop (First × List Token)} {token : Token} {fault : GrammarFault}
    (failure : outcome = .error (.refused (.grammar token.place fault))) (misfit : language.Misfit tokens token) :
    Follows rest outcome tokens language where
  reads _ _ success := by
    rw [failure] at success
    cases success
  refuses _ _ refused _ := by
    rw [failure] at refused
    cases refused
    exact ⟨token, rfl, misfit⟩

/-- Behind flags any other token than a comma must be the parenthesis. -/
theorem closing_follows (writable : rest.Writable) {token : Token} (notComma : token.kind ≠ .comma) (result : First) :
    Follows rest (expect .closeParen (token :: tokens) >>= fun closed => .ok (result, closed.2)) (token :: tokens)
      (AfterFlags rest) := by
  by_cases fits : token.kind = .closeParen
  · rw [expect, if_pos fits]
    have same (more : List Token) : AfterFlags rest ([token] ++ more) ↔ rest more := by
      refine ⟨fun among => ?_, .done fits⟩
      cases among with
      | done _ behind => exact behind
      | next isComma => exact absurd isComma notComma
    refine ⟨fun _ _ success => ?_, fun _ _ failure => by cases failure⟩
    cases success
    exact ⟨[token], rfl, same⟩
  · rw [expect, if_neg fits]
    refine follows_of_misfit rfl ⟨[], tokens, rfl, writable.afterFlags, fun more among => ?_⟩
    cases among with
    | done closes => exact fits closes
    | next isComma => exact notComma isComma

/-- Behind a comma no other word than a flag fits. -/
theorem misfit_flag (writable : rest.Writable) {comma word : Token} (isComma : comma.kind = .comma)
    (notFlag : ∀ flag : Flag, ¬(word.kind = .identifier ∧ word.text = flag.word)) :
    (AfterFlags rest).Misfit (comma :: word :: tokens) word := by
  refine ⟨[comma], tokens, rfl, ?_, fun more among => ?_⟩
  · have identifier : IsIdentifier Flag.removeIfNull.word :=
      ⟨_, _, rfl, by decide, List.all_eq_true.1 (by decide)⟩
    refine (writable.afterFlags.word (.identifier identifier)).imp ?_
    rintro _ ⟨token, others, rfl, isWord, isFlag, behind⟩
    exact .next isComma isWord isFlag behind
  · cases among with
    | done closes => cases isComma.symm.trans closes
    | next _ isWord isFlag => exact notFlag _ ⟨isWord, isFlag⟩

/-- The flags of a replacement and the parenthesis behind them are read by their language. -/
theorem flags_follows (writable : rest.Writable) (known : Flags) (make : Flags → First) :
    Follows rest (flags known tokens >>= fun read => expect .closeParen read.2 >>= fun closed =>
      .ok (make read.1, closed.2)) tokens (AfterFlags rest) := by
  fun_induction flags known tokens with
  | case1 known comma word left isComma isWord flag isFlag ih =>
      have same (more : List Token) : AfterFlags rest ([comma, word] ++ more) ↔ AfterFlags rest more := by
        refine ⟨fun among => ?_, .next isComma isWord (Flag.ofWord?_eq_some_iff.1 isFlag)⟩
        cases among with
        | done closes => cases isComma.symm.trans closes
        | next _ _ _ others => exact others
      constructor
      · intro result behind success
        obtain ⟨read, rfl, also⟩ := ih.reads result behind success
        exact ⟨[comma, word] ++ read, rfl, fun more => by rw [List.append_assoc, same, also]⟩
      · intro place fault failure notName
        obtain ⟨token, located, misfit⟩ := ih.refuses place fault failure notName
        exact ⟨token, located, misfit.behind same⟩
  | case2 known comma word left isComma isWord unknown =>
      refine follows_of_misfit rfl (misfit_flag writable isComma fun flag facts => ?_)
      rw [Flag.ofWord?_eq_some_iff.2 facts.2] at unknown
      cases unknown
  | case3 known comma word left isComma notWord =>
      exact follows_of_misfit rfl (misfit_flag writable isComma fun flag facts => notWord facts.1)
  | case4 known token next left notComma => exact closing_follows writable notComma (make known)
  | case5 => exact follows_of_broken rfl
  | case6 known token notComma => exact closing_follows writable notComma (make known)
  | case7 => exact follows_of_broken rfl

/-- A string gives no name only if it has a backslash and does not decode. -/
theorem name_error {string : Token} {stop : Stop} (failure : name string = .error stop) :
    ∃ cause, '\\' ∈ string.inner ∧ Text.Quoted.decode string.text = .error cause ∧
      stop = .refused (.grammar string.place (.badName string.text cause)) := by
  unfold name at failure
  split at failure
  · next escaped =>
      cases decoded : Text.Quoted.decode string.text with
      | ok text =>
          rw [decoded] at failure
          cases failure
      | error cause =>
          rw [decoded] at failure
          cases failure
          exact ⟨cause, List.contains_iff_mem.1 escaped, rfl, rfl⟩
  · cases failure

theorem name_follows (string : Token) :
    Follows rest (name string >>= fun read => .ok (Instruction.define read, tokens)) tokens rest := by
  cases named : name string with
  | ok read => exact follows_ok _
  | error stop =>
      obtain ⟨cause, _, _, rfl⟩ := name_error named
      refine ⟨fun _ _ success => ?_, fun place fault failure notName => ?_⟩
      · cases success
      · cases failure
        cases notName

/-- The rest of each phrase is read by its language. -/
theorem phrase_follows (writable : rest.Writable) (keyword : Keyword) :
    Follows rest (phrase keyword tokens) tokens (afterPhrase rest keyword) := by
  have closes : (After .closeParen rest).Writable := writable.after (by decide)
  cases keyword with
  | define =>
      refine (expect_follows (by decide) (closes.after (by decide))).bind fun _ _ _ => ?_
      refine (expect_follows (by decide) closes).bind fun string _ _ => ?_
      exact (expect_follows (by decide) writable).bind fun _ _ _ => name_follows string
  | replace =>
      have flagged := writable.afterFlags
      refine (expect_follows (by decide) (((flagged.after (by decide)).after (by decide)).after (by decide))).bind
        fun _ _ _ => ?_
      refine (expect_follows (by decide) ((flagged.after (by decide)).after (by decide))).bind fun pattern _ _ => ?_
      refine (expect_follows (by decide) (flagged.after (by decide))).bind fun _ _ _ => ?_
      refine (expect_follows (by decide) flagged).bind fun field _ _ => ?_
      exact flags_follows writable .empty fun flags => Instruction.replace pattern.inner field.path flags
  | foreach =>
      refine (expect_follows (by decide) (((closes.after (by decide)).after (by decide)).after (by decide))).bind
        fun _ _ _ => ?_
      refine (expect_follows (by decide) ((closes.after (by decide)).after (by decide))).bind fun _ _ _ => ?_
      refine (expect_follows (by decide) (closes.after (by decide))).bind fun _ _ _ => ?_
      refine (expect_follows (by decide) closes).bind fun _ _ _ => ?_
      exact (expect_follows (by decide) writable).bind fun _ _ _ => follows_ok _
  | insert =>
      refine (expect_follows (by decide) (closes.after (by decide))).bind fun _ _ _ => ?_
      refine (expect_follows (by decide) closes).bind fun _ _ _ => ?_
      exact (expect_follows (by decide) writable).bind fun _ _ _ => follows_ok _

end

end Directive

end Stencil
