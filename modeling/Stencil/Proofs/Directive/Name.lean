/-
This file shows that the name of a definition is its string, decoded: also where the string has no backslash and is
taken as it stands between its quotes.
-/
import Stencil.Proofs.Directive.Blame
import Stencil.Proofs.Directive.Definition
import Stencil.Proofs.Token.Language

namespace Stencil

namespace Text

/-- Without a backslash no quote stands between the quotes of a string. -/
theorem QuotedBody.noQuote {inside : Text} (body : QuotedBody inside) (bare : '\\' ∉ inside) : '"' ∉ inside := by
  induction body with
  | nil => exact List.not_mem_nil
  | plain here _ ih =>
      rw [List.mem_cons, not_or] at bare ⊢
      exact ⟨Ne.symm here.1, ih bare.2⟩
  | escape => exact absurd List.mem_cons_self bare

namespace Quoted

/-- Up to the closing quote every character that is no backslash stands for itself. -/
theorem decodeFrom_bare {inside : Text} (noQuote : '"' ∉ inside) (noBackslash : '\\' ∉ inside) (index : Nat) :
    decodeFrom .double index (inside ++ ['"']) = .ok inside := by
  induction inside generalizing index with
  | nil => rfl
  | cons character rest ih =>
      rw [List.mem_cons, not_or] at noQuote noBackslash
      rw [List.cons_append, decodeFrom, if_neg (Ne.symm noQuote.1), if_neg (Ne.symm noBackslash.1),
        ih noQuote.2 noBackslash.2]
      rfl

/-- A string without a backslash is decoded to what stands between its quotes. -/
theorem decode_bare {inside : Text} (body : QuotedBody inside) (bare : '\\' ∉ inside) :
    decode ('"' :: (inside ++ ['"'])) = .ok inside := by
  rw [decode, decodeFrom, if_neg (by decide), if_pos rfl]
  exact decodeFrom_bare (body.noQuote bare) bare _

end Quoted

end Text

namespace Token

/-- The string tokens of a text stand between quotes, with the body of a string inside. -/
theorem scan_quoted {line column start : Nat} {text : Text} {tokens : List Token}
    (success : scan line column start text = .ok tokens) {token : Token} (member : token ∈ tokens)
    (quoted : token.kind = .quoted) : ∃ inside, Text.QuotedBody inside ∧ token.text = '"' :: (inside ++ ['"']) := by
  obtain ⟨words, rfl, covers⟩ := scan_covers success
  rcases List.mem_append.1 member with among | last
  · obtain ⟨_, _, _, _, _, longest⟩ := (covers.longest token among).split
    have spelled := longest.spelled
    rw [quoted] at spelled
    generalize token.text = written at spelled ⊢
    cases spelled with
    | quoted body => exact ⟨_, body, rfl⟩
  · rw [List.mem_singleton.1 last] at quoted
    cases quoted

end Token

namespace Directive

/-- The name that a string gives is the decoded string, and a fault in it is reported at the string. -/
theorem name_decodes {quoted : Token} {inside : Text} (body : Text.QuotedBody inside)
    (written : quoted.text = '"' :: (inside ++ ['"'])) :
    name quoted = (Text.Quoted.decode quoted.text).mapError fun fault =>
      .refused (.grammar quoted.place (.badName quoted.text fault)) := by
  have inner : quoted.inner = inside := by simp [Token.inner, written]
  unfold name
  split
  · rfl
  · next bare =>
      rw [inner, List.contains_iff_mem] at bare
      rw [inner, written, Text.Quoted.decode_bare body bare]
      rfl

/-- Behind `DEFINE` a string between parentheses is read as the name that it gives. -/
theorem define_string {opening quoted closing : Token} (opens : opening.kind = .openParen)
    (isString : quoted.kind = .quoted) (closes : closing.kind = .closeParen) (left : List Token) :
    define (opening :: quoted :: closing :: left) = (name quoted).map fun name => (.define name, left) := by
  unfold define
  refine bind_of_ok (if_pos opens) (bind_of_ok (if_pos isString) (bind_of_ok (if_pos closes) ?_))
  dsimp only
  cases name quoted <;> rfl

/-- Whatever the string of a definition holds, its name is the decoded string. A string without a backslash is
decoded to what stands between its quotes. Behind the closing parenthesis the definition is refused exactly if the
string cannot be decoded, and then at the string. Every body of a string can stand in a definition. -/
theorem define_decodes_string (line column start : Nat) :
    (∀ text tokens, Token.scan line column start text = .ok tokens →
      ∀ before keyword opening quoted closing left,
        tokens = before ++ keyword :: opening :: quoted :: closing :: left →
        keyword.kind = .identifier → keyword.text = Keyword.define.word → opening.kind = .openParen →
        quoted.kind = .quoted → closing.kind = .closeParen →
        (define (opening :: quoted :: closing :: left) =
          match Text.Quoted.decode quoted.text with
          | .ok name => .ok (.define name, left)
          | .error fault => .error (.refused (.grammar quoted.place (.badName quoted.text fault)))) ∧
        ('\\' ∉ quoted.inner → Text.Quoted.decode quoted.text = .ok quoted.inner) ∧
        ((∃ stop, define (opening :: quoted :: closing :: left) = .error stop) ↔
          ∃ fault, Text.Quoted.decode quoted.text = .error fault)) ∧
    ∀ inside, Text.QuotedBody inside → ∃ keyword opening quoted closing ending : Token,
      Token.scan line column start (Keyword.define.word ++ '(' :: '"' :: (inside ++ '"' :: [')'])) =
        .ok [keyword, opening, quoted, closing, ending] ∧
      keyword.kind = .identifier ∧ keyword.text = Keyword.define.word ∧ opening.kind = .openParen ∧
      quoted.kind = .quoted ∧ closing.kind = .closeParen ∧ quoted.inner = inside := by
  refine ⟨fun text tokens success before keyword opening quoted closing left split _ _ opens isString closes => ?_,
    fun inside body => ?_⟩
  · have member : quoted ∈ tokens := by simp [split]
    obtain ⟨inside, body, written⟩ := Token.scan_quoted success member isString
    have read := define_string opens isString closes left
    rw [name_decodes body written] at read
    refine ⟨?_, fun bare => ?_, ?_⟩
    · rw [read]
      cases Text.Quoted.decode quoted.text <;> rfl
    · have inner : quoted.inner = inside := by simp [Token.inner, written]
      rw [inner] at bare ⊢
      rw [written, Text.Quoted.decode_bare body bare]
    · rw [read]
      cases Text.Quoted.decode quoted.text with
      | ok name =>
          constructor
          all_goals
            rintro ⟨_, failure⟩
            cases failure
      | error fault => exact ⟨fun _ => ⟨fault, rfl⟩, fun _ => ⟨_, rfl⟩⟩
  · refine ⟨_, _, _, _, _, Token.scan_token (Lexeme.read?_define _) (Token.scan_token (Lexeme.read?_openParen _)
      (Token.scan_token (Lexeme.read?_quoted body [')']) (Token.scan_token (Lexeme.read?_closeParen [])
        Token.scan_nil))), rfl, rfl, rfl, rfl, rfl, ?_⟩
    simp [Token.inner]

/-- The tokens of a definition with a string that starts at an offset of a line. -/
def definitionTokens (line start column : Nat) (string : Text) : List Token :=
  [⟨.identifier, start, Keyword.define.word, line, column⟩, ⟨.openParen, start + 6, ['('], line, column + 6⟩,
    ⟨.quoted, start + 7, string, line, column + 7⟩,
    ⟨.closeParen, start + 7 + Text.byteSize string, [')'], line, column + 7 + Text.byteSize string⟩]

/-- A string with quotes of other kinds and a line feed. -/
def foreignString : Text := "\"it's `é` $\n\"".toList

/-- A string with escapes. -/
def escapedString : Text := "\"\\u\x7be9\x7d\\\"\"".toList

/-- A string with an escape that does not decode. -/
def brokenString : Text := "\"'\\q\"".toList

theorem define_decodes_string_foreign :
    let last := definitionTokens 2 80 49 brokenString ++ [⟨.endOfLine, 93, [], 2, 62⟩]
    let later := definitionTokens 2 62 31 escapedString ++ last
    let tokens := definitionTokens 2 40 9 foreignString ++ later
    Token.scan 2 9 40 ("DEFINE(".toList ++ foreignString ++ ")DEFINE(".toList ++ escapedString ++
      ")DEFINE(".toList ++ brokenString ++ [')']) = .ok tokens ∧
    define (tokens.drop 1) = .ok (.define "it's `é` $\n".toList, later) ∧
    Text.Quoted.decode foreignString = .ok "it's `é` $\n".toList ∧
    define (later.drop 1) = .ok (.define ['é', '"'], last) ∧
    (∃ stop, define (last.drop 1) = .error stop) ∧
    ∃ keyword opening quoted closing ending : Token,
      Token.scan 2 9 40 (Keyword.define.word ++ '(' :: '"' :: (['\\', 'q'] ++ '"' :: [')'])) =
        .ok [keyword, opening, quoted, closing, ending] ∧ quoted.inner = ['\\', 'q'] := by
  intro last later tokens
  have scanned : Token.scan 2 9 40 ("DEFINE(".toList ++ foreignString ++ ")DEFINE(".toList ++ escapedString ++
      ")DEFINE(".toList ++ brokenString ++ [')']) = .ok tokens := by
    decide +kernel
  have first := (define_decodes_string 2 9 40).1 _ tokens scanned [] _ _ _ _ later rfl rfl rfl rfl rfl rfl
  have second := (define_decodes_string 2 9 40).1 _ tokens scanned (definitionTokens 2 40 9 foreignString) _ _ _ _
    last rfl rfl rfl rfl rfl rfl
  have third := (define_decodes_string 2 9 40).1 _ tokens scanned
    (definitionTokens 2 40 9 foreignString ++ definitionTokens 2 62 31 escapedString) _ _ _ _
    [⟨.endOfLine, 93, [], 2, 62⟩] rfl rfl rfl rfl rfl rfl
  have body : Text.QuotedBody ['\\', 'q'] := .escape (by decide) .nil
  obtain ⟨keyword, opening, quoted, closing, ending, written, _, _, _, _, _, inner⟩ :=
    (define_decodes_string 2 9 40).2 _ body
  have decoded : Text.Quoted.decode foreignString = .ok "it's `é` $\n".toList := by decide +kernel
  have escapes : Text.Quoted.decode escapedString = .ok ['é', '"'] := by decide +kernel
  have broken : ∃ fault, Text.Quoted.decode brokenString = .error fault :=
    ⟨.unknownEscape ['\\', 'q'] 3, by decide +kernel⟩
  refine ⟨scanned, ?_, decoded, ?_, third.2.2.2 broken, keyword, opening, quoted, closing, ending, written, inner⟩
  · exact first.1.trans (by rw [decoded])
  · exact second.1.trans (by rw [escapes])

end Directive

end Stencil
