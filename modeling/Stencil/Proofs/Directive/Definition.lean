/-
This file reads the directive text that defines a template with a plain name.
-/
import Stencil.Proofs.Directive.Parse
import Stencil.Proofs.Outcome

namespace Stencil

/-- A plain name stands between quotes as it is. -/
structure Text.PlainName (name : Text) : Prop where
  nonempty : name ≠ []
  noQuote : '"' ∉ name
  noBackslash : '\\' ∉ name
  noTab : '\t' ∉ name
  noFeed : '\n' ∉ name

/-- The directive text that defines a template. -/
def Directive.definition (name : Text) : Text :=
  Keyword.define.word ++ '(' :: '"' :: (name ++ ['"', ')'])

/-- Text without quotes and backslashes reaches to the next quote. -/
theorem Lexeme.quotedTail?_plain {name : Text} (noQuote : '"' ∉ name) (noBackslash : '\\' ∉ name)
    (rest : Text) : quotedTail? (name ++ '"' :: rest) = some (name ++ ['"'], rest) := by
  induction name with
  | nil => rfl
  | cons character others ih =>
      rw [List.mem_cons, not_or] at noQuote noBackslash
      rw [List.cons_append, quotedTail?, ih noQuote.2 noBackslash.2]
      · rfl
      · exact fun same => noQuote.1 same.symm
      · exact fun same => absurd same.symm noBackslash.1
      · exact fun _ _ same => absurd same.symm noBackslash.1

theorem Lexeme.read?_define (rest : Text) :
    read? (Keyword.define.word ++ '(' :: rest) =
      some (⟨some .identifier, Keyword.define.word⟩, '(' :: rest) := rfl

namespace Directive

theorem phrase_define {opening quoted closing : Token} {rest : List Token}
    (opens : opening.kind = .openParen) (string : quoted.kind = .quoted)
    (closes : closing.kind = .closeParen) (bare : '\\' ∉ quoted.inner) :
    phrase .define (opening :: quoted :: closing :: rest) = .ok (.define quoted.inner, rest) := by
  have named : name quoted = .ok quoted.inner := by
    rw [name, if_neg (by simpa using bare)]
  exact bind_of_ok (if_pos opens) (bind_of_ok (if_pos string) (bind_of_ok (if_pos closes) (bind_of_ok named rfl)))

theorem parseTerminated_keyword {line lineStart : Nat} {token : Token} {rest left : List Token}
    {keyword : Keyword} {instruction : Instruction} (word : token.kind = .identifier)
    (known : Keyword.ofWord? token.text = some keyword)
    (phrased : phrase keyword rest = .ok (instruction, left)) (behind : lineStart ≤ token.start) :
    parseTerminated line lineStart (token :: rest) = (parseTerminated line lineStart left).map
      (⟨instruction, line, token.start - lineStart⟩ :: ·) := by
  rw [parseTerminated_cons_keyword line lineStart rest word known, phrased]
  exact if_neg (Nat.not_lt.2 behind)

/-- A definition is scanned into tokens from which its directive is parsed. -/
theorem parse_definition {name : Text} (plain : name.PlainName) (line column start : Nat) :
    ∃ tokens, Token.scan line column start (definition name) = .ok tokens ∧
      ∀ lineStart, lineStart ≤ start →
        parse line lineStart tokens = .ok [⟨.define name, line, start - lineStart⟩] := by
  have quoted : Lexeme.read? ('"' :: (name ++ ['"', ')'])) =
      some (⟨some .quoted, '"' :: (name ++ ['"'])⟩, [')']) := by
    rw [Lexeme.read?_quote, Lexeme.quotedTail?_plain plain.noQuote plain.noBackslash]
    rfl
  refine ⟨_, Token.scan_token (Lexeme.read?_define _) (Token.scan_token (Lexeme.read?_openParen _)
    (Token.scan_token quoted (Token.scan_token (Lexeme.read?_closeParen []) Token.scan_nil))),
    fun lineStart behind => ?_⟩
  have inner : (('"' :: (name ++ ['"'])).drop 1).dropLast = name := by simp
  rw [parse, if_neg (List.cons_ne_nil _ _)]
  refine (parseTerminated_keyword rfl rfl (phrase_define rfl rfl rfl ?_) behind).trans ?_
  · rw [Token.inner, inner]
    exact plain.noBackslash
  · rw [Token.inner, inner, parseTerminated, if_pos rfl]
    rfl

end Directive

end Stencil
