/-
This file reads the directives of one token line.
-/
import Stencil.Error

namespace Stencil.Directive

/-- A phrase reader takes the tokens ahead and gives its result with the tokens left. -/
abbrev Reader (Result : Type) := List Token → Except Stop (Result × List Token)

/-- The next token must be of one class. -/
def expect (wanted : Token.Kind) : Reader Token
  | [] => .error (.broken .unterminatedTokens)
  | token :: rest =>
      if token.kind = wanted then .ok (token, rest)
      else
        .error (.refused (.grammar ⟨token.line, token.column⟩ (.expected wanted token.kind)))

/-- The name between the quotes, with its escapes resolved if it has a backslash. -/
def name (token : Token) : Except Stop Text :=
  if token.inner.contains '\\' then
    (Text.Quoted.decode token.text).mapError fun fault =>
      .refused (.grammar ⟨token.line, token.column⟩ (.badName token.text fault))
  else .ok token.inner

/-- The phrase after `DEFINE`. -/
def define : Reader Instruction := fun tokens => do
  let (_, tokens) ← expect .openParen tokens
  let (quoted, tokens) ← expect .quoted tokens
  let (_, tokens) ← expect .closeParen tokens
  return (.define (← name quoted), tokens)

/-- The flags of a replacement, each after a comma. -/
def flags (known : Flags) : Reader Flags
  | comma :: word :: rest =>
      if comma.kind = .comma then
        if word.kind = .identifier then
          match Flag.ofWord? word.text with
          | some flag => flags (known.insert flag) rest
          | none => .error (.refused (.grammar ⟨word.line, word.column⟩ (.unknownFlag word.text)))
        else
          .error (.refused (.grammar ⟨word.line, word.column⟩ (.expected .identifier word.kind)))
      else .ok (known, comma :: word :: rest)
  | [token] =>
      if token.kind = .comma then .error (.broken .unterminatedTokens) else .ok (known, [token])
  | [] => .error (.broken .unterminatedTokens)

/-- The phrase after `REPLACE`. -/
def replace : Reader Instruction := fun tokens => do
  let (_, tokens) ← expect .openParen tokens
  let (pattern, tokens) ← expect .backticked tokens
  let (_, tokens) ← expect .comma tokens
  let (field, tokens) ← expect .accessor tokens
  let (flags, tokens) ← flags .empty tokens
  let (_, tokens) ← expect .closeParen tokens
  return (.replace pattern.inner field.path flags, tokens)

/-- The phrase after `FOREACH`. -/
def foreach : Reader Instruction := fun tokens => do
  let (_, tokens) ← expect .openParen tokens
  let (item, tokens) ← expect .accessor tokens
  let (_, tokens) ← expect .colon tokens
  let (collection, tokens) ← expect .accessor tokens
  let (_, tokens) ← expect .closeParen tokens
  return (.foreach item.path collection.path, tokens)

/-- The phrase after `INSERT`. -/
def insert : Reader Instruction := fun tokens => do
  let (_, tokens) ← expect .openParen tokens
  let (field, tokens) ← expect .accessor tokens
  let (_, tokens) ← expect .closeParen tokens
  return (.insert field.path, tokens)

/-- The phrase after a keyword. -/
def phrase : Keyword → Reader Instruction
  | .define => define
  | .replace => replace
  | .foreach => foreach
  | .insert => insert

/-- The token that is expected is the next one, and it has the class. -/
theorem expect_ok {wanted : Token.Kind} {tokens left : List Token} {token : Token}
    (success : expect wanted tokens = .ok (token, left)) : token.kind = wanted ∧ tokens = token :: left := by
  unfold expect at success
  split at success
  · cases success
  · split at success
    · next kind =>
        cases success
        exact ⟨kind, rfl⟩
    · cases success

/-- A reader that begins with an expected token succeeds if the next token has the class and what follows succeeds. -/
theorem expect_bind_ok {Result : Type} {wanted : Token.Kind} {tokens : List Token}
    {next : Token × List Token → Except Stop Result} {result : Result}
    (success : expect wanted tokens >>= next = .ok result) :
    ∃ token rest, tokens = token :: rest ∧ token.kind = wanted ∧ next (token, rest) = .ok result := by
  obtain ⟨⟨token, rest⟩, expected, later⟩ := bind_ok success
  obtain ⟨kind, rfl⟩ := expect_ok expected
  exact ⟨token, rest, rfl, kind, later⟩

section

variable {tokens left : List Token} {instruction : Instruction}

theorem define_ok (success : define tokens = .ok (instruction, left)) :
    ∃ opening quoted closing text, tokens = opening :: quoted :: closing :: left ∧ opening.kind = .openParen ∧
      quoted.kind = .quoted ∧ closing.kind = .closeParen ∧ name quoted = .ok text ∧
      instruction = .define text := by
  obtain ⟨opening, _, rfl, opens, success⟩ := expect_bind_ok success
  obtain ⟨quoted, _, rfl, isString, success⟩ := expect_bind_ok success
  obtain ⟨closing, _, rfl, closes, success⟩ := expect_bind_ok success
  obtain ⟨text, named, success⟩ := bind_ok success
  cases success
  exact ⟨opening, quoted, closing, text, rfl, opens, isString, closes, named, rfl⟩

theorem replace_ok (success : replace tokens = .ok (instruction, left)) :
    ∃ opening pattern comma field behind closing known, tokens = opening :: pattern :: comma :: field :: behind ∧
      opening.kind = .openParen ∧ pattern.kind = .backticked ∧ comma.kind = .comma ∧ field.kind = .accessor ∧
      flags .empty behind = .ok (known, closing :: left) ∧ closing.kind = .closeParen ∧
      instruction = .replace pattern.inner field.path known := by
  obtain ⟨opening, _, rfl, opens, success⟩ := expect_bind_ok success
  obtain ⟨pattern, _, rfl, isPattern, success⟩ := expect_bind_ok success
  obtain ⟨comma, _, rfl, isComma, success⟩ := expect_bind_ok success
  obtain ⟨field, behind, rfl, isField, success⟩ := expect_bind_ok success
  obtain ⟨⟨known, _⟩, flagged, success⟩ := bind_ok success
  obtain ⟨closing, _, rfl, closes, success⟩ := expect_bind_ok success
  cases success
  exact ⟨opening, pattern, comma, field, behind, closing, known, rfl, opens, isPattern, isComma, isField, flagged,
    closes, rfl⟩

theorem foreach_ok (success : foreach tokens = .ok (instruction, left)) :
    ∃ opening item colon collection closing, tokens = opening :: item :: colon :: collection :: closing :: left ∧
      opening.kind = .openParen ∧ item.kind = .accessor ∧ colon.kind = .colon ∧ collection.kind = .accessor ∧
      closing.kind = .closeParen ∧ instruction = .foreach item.path collection.path := by
  obtain ⟨opening, _, rfl, opens, success⟩ := expect_bind_ok success
  obtain ⟨item, _, rfl, isItem, success⟩ := expect_bind_ok success
  obtain ⟨colon, _, rfl, isColon, success⟩ := expect_bind_ok success
  obtain ⟨collection, _, rfl, isCollection, success⟩ := expect_bind_ok success
  obtain ⟨closing, _, rfl, closes, success⟩ := expect_bind_ok success
  cases success
  exact ⟨opening, item, colon, collection, closing, rfl, opens, isItem, isColon, isCollection, closes, rfl⟩

theorem insert_ok (success : insert tokens = .ok (instruction, left)) :
    ∃ opening field closing, tokens = opening :: field :: closing :: left ∧ opening.kind = .openParen ∧
      field.kind = .accessor ∧ closing.kind = .closeParen ∧ instruction = .insert field.path := by
  obtain ⟨opening, _, rfl, opens, success⟩ := expect_bind_ok success
  obtain ⟨field, _, rfl, isField, success⟩ := expect_bind_ok success
  obtain ⟨closing, _, rfl, closes, success⟩ := expect_bind_ok success
  cases success
  exact ⟨opening, field, closing, rfl, opens, isField, closes, rfl⟩

theorem flags_suffix {known result : Flags} (success : flags known tokens = .ok (result, left)) : left <:+ tokens := by
  fun_induction flags known tokens with
  | case1 known comma word rest _ _ flag _ ih =>
      exact (ih success).trans ((List.suffix_cons word rest).trans (List.suffix_cons comma _))
  | case2 => cases success
  | case3 => cases success
  | case4 =>
      cases success
      exact List.suffix_refl _
  | case5 => cases success
  | case6 =>
      cases success
      exact List.suffix_refl _
  | case7 => cases success

/-- A phrase leaves the last of the tokens that it was given. -/
theorem phrase_suffix {keyword : Keyword} (success : phrase keyword tokens = .ok (instruction, left)) :
    left <:+ tokens := by
  cases keyword with
  | define =>
      obtain ⟨opening, quoted, closing, _, rfl, _⟩ := define_ok success
      exact List.suffix_append [opening, quoted, closing] left
  | replace =>
      obtain ⟨opening, pattern, comma, field, behind, closing, _, rfl, _, _, _, _, flagged, _⟩ := replace_ok success
      have later : left <:+ behind := (List.suffix_cons closing left).trans (flags_suffix flagged)
      exact later.trans (List.suffix_append [opening, pattern, comma, field] behind)
  | foreach =>
      obtain ⟨opening, item, colon, collection, closing, rfl, _⟩ := foreach_ok success
      exact List.suffix_append [opening, item, colon, collection, closing] left
  | insert =>
      obtain ⟨opening, field, closing, rfl, _⟩ := insert_ok success
      exact List.suffix_append [opening, field, closing] left

end

/-- The directives before the end of line. Tokens that start no directive are passed over. A
column counts from the start of the line. -/
def parseTerminated (line lineStart : Nat) : List Token → Except Stop (List Directive)
  | [] => .error (.broken .unterminatedTokens)
  | token :: rest =>
      if token.kind = .endOfLine then .ok []
      else if token.kind = .identifier then
        match Keyword.ofWord? token.text with
        | none => parseTerminated line lineStart rest
        | some keyword =>
            match _found : phrase keyword rest with
            | .error stop => .error stop
            | .ok (instruction, left) =>
                if token.start < lineStart then .error (.broken .keywordBeforeLine)
                else
                  (parseTerminated line lineStart left).map fun directives =>
                    ⟨instruction, line, token.start - lineStart⟩ :: directives
      else parseTerminated line lineStart rest
termination_by tokens => tokens.length
decreasing_by
  all_goals simp only [List.length_cons]
  · omega
  · have shorter := (phrase_suffix (by assumption)).length_le
    omega
  · omega

/-- The directives of a token list, which is empty or ends with an end of line. -/
def parse (line lineStart : Nat) (tokens : List Token) : Except Stop (List Directive) :=
  if tokens = [] then .ok [] else parseTerminated line lineStart tokens

end Stencil.Directive
