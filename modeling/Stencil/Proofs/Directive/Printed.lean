/-
This file prints directives with any blanks between their words, and shows that they are scanned and parsed
back, and that each directive that is parsed can be printed.
-/
import Stencil.Proofs.Directive.Definition
import Stencil.Proofs.Directive.Parse
import Stencil.Proofs.Outcome
import Stencil.Proofs.Token.Spaced

namespace Stencil

open Text

namespace Word

/-- The flag of a replacement, written some times, and the parenthesis behind it. -/
def flagsThen : Nat → List Word
  | 0 => [closeParen]
  | count + 1 => comma :: name Flag.removeIfNull.word :: flagsThen count

theorem apart_openParen (rest : Text) : Apart (openParen.text ++ rest) := by
  rintro first ⟨⟩
  decide

theorem apart_closeParen (rest : Text) : Apart (closeParen.text ++ rest) := by
  rintro first ⟨⟩
  decide

theorem apart_comma (rest : Text) : Apart (comma.text ++ rest) := by
  rintro first ⟨⟩
  decide

theorem apart_colon (rest : Text) : Apart (colon.text ++ rest) := by
  rintro first ⟨⟩
  decide

/-- A word that is read before punctuation is read before the flags. -/
theorem flagsThen_phrase {word : Word} (leads : ∀ {rest}, Apart rest → word.Leads rest) (count : Nat) :
    Phrase (word :: flagsThen count) := by
  induction count generalizing word with
  | zero => exact .next (precedes_apart leads apart_closeParen) (.last closeParen_closed)
  | succ count ih =>
      have identifier : IsIdentifier Flag.removeIfNull.word :=
        ⟨_, _, rfl, by decide, List.all_eq_true.1 (by decide)⟩
      exact .next (precedes_apart leads apart_comma)
        (.next (comma_closed.precedes _) (ih (name_leads identifier)))

end Word

theorem Keyword.word_isIdentifier (keyword : Keyword) : IsIdentifier keyword.word := by
  cases keyword <;> exact ⟨_, _, rfl, by decide, List.all_eq_true.1 (by decide)⟩

theorem Keyword.ofWord?_word (keyword : Keyword) : Keyword.ofWord? keyword.word = some keyword := by
  cases keyword <;> decide

namespace Instruction

/-- Fields and collections are dotted paths, and a pattern has no backtick. A name is any text. -/
def Printable : Instruction → Prop
  | .define _ => True
  | .replace pattern field _ => '\x60' ∉ pattern ∧ IsPath field
  | .foreach item collection => IsPath item ∧ IsPath collection
  | .insert field => IsPath field

/-- How often a replacement writes its flag: not at all if it is not set, else once or more. -/
def repeats (again : Nat) (flags : Flags) : Nat := if flags.removeIfNull then again + 1 else 0

/-- The words of an instruction. A flag that is set is written once and some times again. -/
def words (again : Nat) : Instruction → List Word
  | .define name => [.name Keyword.define.word, .openParen, .quoted name, .closeParen]
  | .replace pattern field flags =>
      .name Keyword.replace.word :: .openParen :: .backticked pattern :: .comma :: .accessor field ::
        Word.flagsThen (repeats again flags)
  | .foreach item collection =>
      [.name Keyword.foreach.word, .openParen, .accessor item, .colon, .accessor collection, .closeParen]
  | .insert field => [.name Keyword.insert.word, .openParen, .accessor field, .closeParen]

/-- The words of an instruction that can be printed are read in turn. -/
theorem Printable.phrase {instruction : Instruction} (printable : instruction.Printable) (again : Nat) :
    Word.Phrase (instruction.words again) := by
  have opens (keyword : Keyword) : (Word.name keyword.word).Precedes .openParen :=
    Word.precedes_apart (Word.name_leads keyword.word_isIdentifier) Word.apart_openParen
  cases instruction with
  | define name =>
      exact .next (opens .define) (.next (Word.openParen_closed.precedes _)
        (.next ((Word.quoted_closed name).precedes _) (.last Word.closeParen_closed)))
  | replace pattern field flags =>
      obtain ⟨bare, isPath⟩ := printable
      exact .next (opens .replace) (.next (Word.openParen_closed.precedes _)
        (.next ((Word.backticked_closed bare).precedes _) (.next (Word.comma_closed.precedes _)
          (Word.flagsThen_phrase (Word.accessor_leads isPath) _))))
  | foreach item collection =>
      obtain ⟨itemPath, collectionPath⟩ := printable
      exact .next (opens .foreach) (.next (Word.openParen_closed.precedes _)
        (.next (Word.precedes_apart (Word.accessor_leads itemPath) Word.apart_colon)
          (.next (Word.colon_closed.precedes _)
            (.next (Word.precedes_apart (Word.accessor_leads collectionPath) Word.apart_closeParen)
              (.last Word.closeParen_closed)))))
  | insert field =>
      exact .next (opens .insert) (.next (Word.openParen_closed.precedes _)
        (.next (Word.precedes_apart (Word.accessor_leads printable) Word.apart_closeParen)
          (.last Word.closeParen_closed)))

/-- The first word of an instruction is its keyword. -/
theorem words_eq_cons (instruction : Instruction) (again : Nat) :
    ∃ others, instruction.words again = .name instruction.keyword.word :: others := by
  cases instruction <;> exact ⟨_, rfl⟩

end Instruction

namespace Token

/-- Blanks alone are scanned into the end of line behind them. -/
theorem scan_allBlank {line column start : Nat} {blanks : Text} (blank : allBlank blanks = true) :
    scan line column start blanks =
      .ok [⟨.endOfLine, start + byteSize blanks, [], line, column + byteSize blanks⟩] :=
  calc scan line column start blanks
    _ = scan line column start (blanks ++ []) := by rw [List.append_nil]
    _ = scan line (column + byteSize blanks) (start + byteSize blanks) [] := scan_blanks blank nofun
    _ = _ := scan_nil

/-- An accessor has a dotted path, and the inside of a backtick string has no backtick. -/
structure Proper (token : Token) : Prop where
  isPath : token.kind = .accessor → IsPath token.path
  bare : token.kind = .backticked → '\x60' ∉ token.inner

/-- A lexeme with a class makes a proper token. -/
theorem read?_proper {text after : Text} {lexeme : Lexeme} {kind : Kind}
    (found : Lexeme.read? text = some (lexeme, after)) (classed : lexeme.kind? = some kind)
    (start line column : Nat) : Proper ⟨kind, start, lexeme.text, line, column⟩ := by
  unfold Lexeme.read? at found
  split at found
  · cases found
  · next character rest =>
      split at found
      · cases found
        cases classed
      · split at found
        · cases found
          cases classed
          exact ⟨nofun, nofun⟩
        · split at found
          · cases found
            cases classed
            exact ⟨fun _ => Lexeme.path_isPath rest, nofun⟩
          · obtain ⟨_, _, same⟩ := Option.map_eq_some_iff.1 found
            cases same
            cases classed
            exact ⟨nofun, nofun⟩
          · obtain ⟨⟨more, left⟩, closed, same⟩ := Option.map_eq_some_iff.1 found
            cases same
            cases classed
            obtain ⟨inside, rfl, bare⟩ := Lexeme.backtickedTail?_inside closed
            refine ⟨nofun, fun _ => ?_⟩
            simpa [inner] using bare
          · obtain ⟨_, mark, same⟩ := Option.map_eq_some_iff.1 found
            cases same
            cases classed
            obtain ⟨⟨_, notBackticked, notAccessor⟩, _⟩ := punctuation?_plain mark
            exact ⟨fun accessor => absurd accessor notAccessor,
              fun backticked => absurd backticked notBackticked⟩

/-- The tokens of a text are proper. -/
theorem scan_proper {line column start : Nat} {text : Text} {tokens : List Token}
    (success : scan line column start text = .ok tokens) : ∀ token ∈ tokens, token.Proper := by
  fun_induction scan line column start text generalizing tokens with
  | case1 =>
      cases success
      exact List.forall_mem_singleton.2 ⟨(by cases ·), (by cases ·)⟩
  | case2 => cases success
  | case3 column start text lexeme after found width =>
      rename_i ih
      obtain ⟨others, scanned, rfl⟩ := map_ok success
      cases classed : lexeme.kind? with
      | none => exact ih scanned
      | some kind => exact List.forall_mem_cons.2 ⟨read?_proper found classed _ _ _, ih scanned⟩

/-- The path of an accessor is the path that was written. -/
theorem path_accessor {token : Token} {path : Text} (worded : token.word = .accessor path) :
    token.path = path := by
  rw [Token.path, Token.text_of_word worded]
  rfl

end Token

namespace Directive

/-- The first of some written words is expected by its class. -/
theorem expect_written {word : Word} {words : List Word} {tokens : List Token}
    (worded : tokens.map Token.word = word :: words) (left : List Token) :
    ∃ token others, token.word = word ∧ others.map Token.word = words ∧
      expect word.kind (tokens ++ left) = .ok (token, others ++ left) := by
  obtain ⟨token, others, rfl, rfl, later⟩ := List.map_eq_cons_iff.1 worded
  exact ⟨token, others, rfl, later, if_pos rfl⟩

/-- The name of a quoted text is the text. -/
theorem name_quoted {token : Token} {text : Text} (worded : token.word = .quoted text) :
    name token = .ok text := by
  have written : token.text = quote text := Token.text_of_word worded
  have inner : token.inner = escaped text := by simp [Token.inner, written, quote]
  rw [name]
  split
  · rw [written, Quoted.decode_quote]
    rfl
  · next bare => rw [inner, escaped_bare (by simpa [inner] using bare)]

/-- Flags are read up to the parenthesis behind them. -/
theorem flags_written {count : Nat} {tokens : List Token}
    (worded : tokens.map Token.word = Word.flagsThen count) (known : Flags) (left : List Token) :
    ∃ closing, [closing].map Token.word = [.closeParen] ∧ flags known (tokens ++ left) =
      .ok (if count = 0 then known else known.insert .removeIfNull, [closing] ++ left) := by
  induction count generalizing known tokens with
  | zero =>
      obtain ⟨closing, others, rfl, closes, none⟩ := List.map_eq_cons_iff.1 worded
      obtain rfl := List.map_eq_nil_iff.1 none
      have notComma : closing.kind ≠ .comma := by
        rw [Token.kind_of_word closes]
        decide
      refine ⟨closing, worded, ?_⟩
      cases left with
      | nil => simp [flags, notComma]
      | cons next more => simp [flags, notComma]
  | succ count ih =>
      obtain ⟨comma, others, rfl, isComma, behind⟩ := List.map_eq_cons_iff.1 worded
      obtain ⟨word, tokens, rfl, isFlag, later⟩ := List.map_eq_cons_iff.1 behind
      obtain ⟨closing, closes, read⟩ := ih later (known.insert .removeIfNull)
      refine ⟨closing, closes, ?_⟩
      have flag : Flag.ofWord? word.text = some .removeIfNull := by
        rw [Token.text_of_word isFlag]
        rfl
      have comma : comma.kind = .comma := Token.kind_of_word isComma
      have name : word.kind = .identifier := Token.kind_of_word isFlag
      rw [List.cons_append, List.cons_append, flags, if_pos comma, if_pos name, flag]
      dsimp only
      rw [read]
      simp [Flags.insert]

/-- The phrase behind the keyword of an instruction is read as the instruction. -/
theorem phrase_written {instruction : Instruction} {again : Nat} {keyword : Token} {tokens : List Token}
    (worded : (keyword :: tokens).map Token.word = instruction.words again) (left : List Token) :
    phrase instruction.keyword (tokens ++ left) = .ok (instruction, left) := by
  cases instruction with
  | define text =>
      obtain ⟨_, worded⟩ := List.cons.inj worded
      obtain ⟨_, _, _, worded, first⟩ := expect_written worded left
      obtain ⟨quoted, _, isQuoted, worded, second⟩ := expect_written worded left
      obtain ⟨_, _, _, worded, third⟩ := expect_written worded left
      obtain rfl := List.map_eq_nil_iff.1 worded
      exact bind_of_ok first (bind_of_ok second (bind_of_ok third
        (bind_of_ok (name_quoted isQuoted) rfl)))
  | replace pattern field known =>
      obtain ⟨_, worded⟩ := List.cons.inj worded
      obtain ⟨_, _, _, worded, first⟩ := expect_written worded left
      obtain ⟨backticked, _, isPattern, worded, second⟩ := expect_written worded left
      obtain ⟨_, _, _, worded, third⟩ := expect_written worded left
      obtain ⟨accessor, _, isField, worded, fourth⟩ := expect_written worded left
      obtain ⟨closing, closes, fifth⟩ := flags_written worded .empty left
      obtain ⟨_, _, _, worded, sixth⟩ := expect_written closes left
      obtain rfl := List.map_eq_nil_iff.1 worded
      refine bind_of_ok first (bind_of_ok second (bind_of_ok third
        (bind_of_ok fourth (bind_of_ok fifth (bind_of_ok sixth ?_)))))
      have inside : backticked.inner = pattern := by
        simp [Token.inner, Token.text_of_word isPattern, Word.backticked]
      have flags : (if Instruction.repeats again known = 0 then Flags.empty
          else Flags.empty.insert .removeIfNull) = known := by
        obtain ⟨removes⟩ := known
        cases removes <;> rfl
      dsimp only
      rw [inside, Token.path_accessor isField, flags]
      rfl
  | foreach item collection =>
      obtain ⟨_, worded⟩ := List.cons.inj worded
      obtain ⟨_, _, _, worded, first⟩ := expect_written worded left
      obtain ⟨_, _, isItem, worded, second⟩ := expect_written worded left
      obtain ⟨_, _, _, worded, third⟩ := expect_written worded left
      obtain ⟨_, _, isCollection, worded, fourth⟩ := expect_written worded left
      obtain ⟨_, _, _, worded, fifth⟩ := expect_written worded left
      obtain rfl := List.map_eq_nil_iff.1 worded
      refine bind_of_ok first (bind_of_ok second (bind_of_ok third (bind_of_ok fourth
        (bind_of_ok fifth ?_))))
      dsimp only
      rw [Token.path_accessor isItem, Token.path_accessor isCollection]
      rfl
  | insert field =>
      obtain ⟨_, worded⟩ := List.cons.inj worded
      obtain ⟨_, _, _, worded, first⟩ := expect_written worded left
      obtain ⟨_, _, isField, worded, second⟩ := expect_written worded left
      obtain ⟨_, _, _, worded, third⟩ := expect_written worded left
      obtain rfl := List.map_eq_nil_iff.1 worded
      refine bind_of_ok first (bind_of_ok second (bind_of_ok third ?_))
      dsimp only
      rw [Token.path_accessor isField]
      rfl

/-- A text prints some directives of a line from a column on. Blanks stand before each directive and after
the last. -/
inductive Printed (line : Nat) : (column : Nat) → List Directive → Text → Prop where
  | done {column : Nat} {blanks : Text} (blank : allBlank blanks = true) : Printed line column [] blanks
  | next {column again : Nat} {instruction : Instruction} {blanks part rest : Text}
      {directives : List Directive} (printable : instruction.Printable) (blank : allBlank blanks = true)
      (spaced : Word.Spaced (instruction.words again) part)
      (others : Printed line (column + byteSize blanks + byteSize part) directives rest) :
      Printed line column (⟨instruction, line, column + byteSize blanks⟩ :: directives)
        (blanks ++ (part ++ rest))

variable {line lineStart : Nat}

/-- The tokens of an instruction are parsed as its directive. -/
theorem parseTerminated_written {instruction : Instruction} {again column : Nat} {tokens : List Token}
    (worded : tokens.map Token.word = instruction.words again)
    (starts : ∀ first ∈ tokens.head?, first.start = lineStart + column) (left : List Token) :
    parseTerminated line lineStart (tokens ++ left) =
      (parseTerminated line lineStart left).map (⟨instruction, line, column⟩ :: ·) := by
  obtain ⟨words, same⟩ := instruction.words_eq_cons again
  rw [same] at worded
  obtain ⟨keyword, others, rfl, isKeyword, _⟩ := List.map_eq_cons_iff.1 worded
  rw [← same] at worded
  have known : Keyword.ofWord? keyword.text = some instruction.keyword := by
    rw [Token.text_of_word isKeyword]
    exact instruction.keyword.ofWord?_word
  have start := starts keyword rfl
  rw [List.cons_append, parseTerminated_keyword (Token.kind_of_word isKeyword) known
    (phrase_written worded left) (start ▸ Nat.le_add_right _ _), start, Nat.add_sub_cancel_left]

/-- Printed directives are scanned into tokens from which they are parsed. -/
theorem Printed.parse {column : Nat} {directives : List Directive} {text : Text}
    (printed : Printed line column directives text) (place : Nat) :
    ∃ tokens, Token.scan line place (lineStart + column) text = .ok tokens ∧
      Directive.parse line lineStart tokens = .ok directives := by
  suffices ∃ tokens, tokens ≠ [] ∧ Token.scan line place (lineStart + column) text = .ok tokens ∧
      parseTerminated line lineStart tokens = .ok directives by
    obtain ⟨tokens, some, scanned, parsed⟩ := this
    exact ⟨tokens, scanned, (if_neg some).trans parsed⟩
  induction printed generalizing place with
  | @done column blanks blank =>
      refine ⟨[⟨.endOfLine, lineStart + column + byteSize blanks, [], line, place + byteSize blanks⟩],
        nofun, ?_, ?_⟩
      · exact Token.scan_allBlank blank
      · rw [parseTerminated, if_pos rfl]
  | @next column again instruction blanks part rest directives printable blank spaced others ih =>
      have phrase := printable.phrase again
      obtain ⟨left, _, scanned, parsed⟩ := ih (place + byteSize blanks + byteSize part)
      obtain ⟨tokens, worded, starts, scan⟩ :=
        Token.scan_spaced spaced phrase line (place + byteSize blanks) (lineStart + column + byteSize blanks)
      have solid : ∀ first ∈ (part ++ rest).head?, isBlank first = false := by
        obtain ⟨words, same⟩ := instruction.words_eq_cons again
        rw [same] at phrase spaced
        obtain ⟨tail, rfl⟩ := spaced.starts
        rw [List.append_assoc]
        exact phrase.solid (tail ++ rest)
      refine ⟨tokens ++ left, ?_, ?_, ?_⟩
      · obtain ⟨words, same⟩ := instruction.words_eq_cons again
        rw [same] at worded
        obtain ⟨_, _, rfl, _⟩ := List.map_eq_cons_iff.1 worded
        exact List.cons_ne_nil _ _
      · rw [Token.scan_blanks blank solid, scan]
        simp only [← Nat.add_assoc] at scanned
        rw [scanned]
        rfl
      · rw [parseTerminated_written worded (by simpa only [Nat.add_assoc] using starts), parsed]
        rfl

/-- Directives with instructions that can be printed have a printing, at other columns. -/
theorem exists_printed {directives : List Directive}
    (printable : ∀ directive ∈ directives, directive.instruction.Printable) (line column : Nat) :
    ∃ others text, others.map Directive.instruction = directives.map Directive.instruction ∧
      Printed line column others text := by
  induction directives generalizing column with
  | nil => exact ⟨[], [], rfl, .done rfl⟩
  | cons directive directives ih =>
      obtain ⟨here, later⟩ := List.forall_mem_cons.1 printable
      obtain ⟨part, spaced⟩ := (here.phrase 0).unspaced
      obtain ⟨others, text, same, printed⟩ := ih later (column + byteSize [] + byteSize part)
      refine ⟨_, _, ?_, .next here rfl spaced printed⟩
      rw [List.map_cons, List.map_cons, same]

/-- The phrase of some tokens that are proper is an instruction that can be printed. -/
theorem phrase_printable {keyword : Keyword} {tokens left : List Token} {instruction : Instruction}
    (success : phrase keyword tokens = .ok (instruction, left)) (proper : ∀ token ∈ tokens, token.Proper) :
    instruction.Printable := by
  cases keyword with
  | define =>
      obtain ⟨_, _, _, _, _, _, _, _, _, rfl⟩ := define_ok success
      exact trivial
  | replace =>
      obtain ⟨_, _, _, _, _, _, _, rfl, _, isPattern, _, isField, _, _, rfl⟩ := replace_ok success
      simp only [List.forall_mem_cons] at proper
      obtain ⟨_, pattern, _, field, _⟩ := proper
      exact ⟨pattern.bare isPattern, field.isPath isField⟩
  | foreach =>
      obtain ⟨_, _, _, _, _, rfl, _, isItem, _, isCollection, _, rfl⟩ := foreach_ok success
      simp only [List.forall_mem_cons] at proper
      obtain ⟨_, item, _, collection, _⟩ := proper
      exact ⟨item.isPath isItem, collection.isPath isCollection⟩
  | insert =>
      obtain ⟨_, _, _, rfl, _, isField, _, rfl⟩ := insert_ok success
      simp only [List.forall_mem_cons] at proper
      exact proper.2.1.isPath isField

/-- The directives of proper tokens have instructions that can be printed. -/
theorem parseTerminated_printable {tokens : List Token} {directives : List Directive}
    (success : parseTerminated line lineStart tokens = .ok directives)
    (proper : ∀ token ∈ tokens, token.Proper) :
    ∀ directive ∈ directives, directive.instruction.Printable := by
  fun_induction parseTerminated line lineStart tokens generalizing directives with
  | case1 => cases success
  | case2 =>
      cases success
      exact List.forall_mem_nil _
  | case3 token rest _ _ _ ih => exact ih success (List.forall_mem_cons.1 proper).2
  | case4 => cases success
  | case5 => cases success
  | case6 token rest _ _ keyword _ instruction left read _ ih =>
      obtain ⟨others, parsed, rfl⟩ := map_ok success
      obtain ⟨_, behind⟩ := List.forall_mem_cons.1 proper
      exact List.forall_mem_cons.2 ⟨phrase_printable read behind,
        ih parsed fun token member => behind token ((phrase_suffix read).mem member)⟩
  | case7 token rest _ _ ih => exact ih success (List.forall_mem_cons.1 proper).2

/-- Directives are read back from each text that prints them, each with the column of its keyword, and the
directives of a token line can be printed and read back. -/
theorem printed_directives_parse (line lineStart place column : Nat) :
    (∀ directives text, Printed line column directives text →
      ∃ tokens, Token.scan line place (lineStart + column) text = .ok tokens ∧
        parse line lineStart tokens = .ok directives) ∧
    ∀ text tokens directives, Token.scan line place (lineStart + column) text = .ok tokens →
      parse line lineStart tokens = .ok directives →
      (∀ directive ∈ directives, directive.instruction.Printable) ∧
      ∃ others printed, others.map Directive.instruction = directives.map Directive.instruction ∧
        Printed line column others printed ∧
        ∃ tokens, Token.scan line place (lineStart + column) printed = .ok tokens ∧
          parse line lineStart tokens = .ok others := by
  refine ⟨fun directives text printed => printed.parse place, fun text tokens directives scanned parsed => ?_⟩
  have printable : ∀ directive ∈ directives, directive.instruction.Printable := by
    unfold parse at parsed
    split at parsed
    · cases parsed
      exact nofun
    · exact parseTerminated_printable parsed (Token.scan_proper scanned)
  obtain ⟨others, printed, same, prints⟩ := exists_printed printable line column
  exact ⟨printable, others, printed, same, prints, prints.parse place⟩

/-- A name that needs escapes is read back, and the directive behind it follows without a blank. -/
theorem printed_directives_parse_escaped :
    let directives : List Directive :=
      [⟨.define ['a', '"', '\\'], 3, 4⟩, ⟨.replace ['x', '+'] [] ⟨true⟩, 3, 21⟩]
    let text := "DEFINE( \"a\\\"\\\\\" )REPLACE(`x+`,$,REMOVE_IF_NULL )\u00A0".toList
    ∃ tokens, Token.scan 3 6 (10 + 4) text = .ok tokens ∧ parse 3 10 tokens = .ok directives ∧
      ∀ directive ∈ directives, directive.instruction.Printable := by
  intro directives text
  have tight {word : Word} {words : List Word} {text : Text} (others : Word.Spaced words text) :
      Word.Spaced (word :: words) (word.text ++ ([] ++ text)) := .next rfl others
  have wide {word : Word} {words : List Word} {text : Text} (others : Word.Spaced words text) :
      Word.Spaced (word :: words) (word.text ++ ([' '] ++ text)) := .next rfl others
  have defined : Word.Spaced (Instruction.words 0 (.define ['a', '"', '\\'])) _ :=
    tight (wide (wide (.last _)))
  have replaced : Word.Spaced (Instruction.words 0 (.replace ['x', '+'] [] ⟨true⟩)) _ :=
    tight (tight (tight (tight (tight (tight (wide (.last _)))))))
  have last : Printed 3 52 [] ['\u00A0'] := .done rfl
  have second := @Printed.next 3 21 0 (.replace ['x', '+'] [] ⟨true⟩) [] _ _ _ ⟨by decide, .inl rfl⟩ rfl
    replaced last
  have printed : Printed 3 4 directives text :=
    @Printed.next 3 4 0 (.define ['a', '"', '\\']) [] _ _ _ trivial rfl defined second
  obtain ⟨tokens, scanned, parsed⟩ := (printed_directives_parse 3 10 6 4).1 directives text printed
  exact ⟨tokens, scanned, parsed,
    ((printed_directives_parse 3 10 6 4).2 text tokens directives scanned parsed).1⟩

end Directive

end Stencil
