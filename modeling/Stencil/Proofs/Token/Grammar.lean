/-
This file holds the grammar of directive text. It shows that a lexeme is read exactly if it is the longest word of
its class at the head of a text, and that no other class has a word there.
-/
import Mathlib.Data.List.TakeWhile
import Stencil.Proofs.Token.Words

namespace Stencil

/-- Between the quotes of a string each quote and each backslash is escaped. A backslash escapes any character but
a line feed. -/
inductive Text.QuotedBody : Text → Prop where
  | nil : QuotedBody []
  | plain {character : Char} {rest : Text} (bare : character ≠ '"' ∧ character ≠ '\\') (others : QuotedBody rest) :
      QuotedBody (character :: rest)
  | escape {character : Char} {rest : Text} (notFeed : character ≠ '\n') (others : QuotedBody rest) :
      QuotedBody ('\\' :: character :: rest)

namespace Lexeme

open Text

/-- The words of each class: runs of blanks, identifiers, accessors, the two kinds of string, and marks of
punctuation. -/
inductive Spelled : Lexeme → Prop where
  | blanks {text : Text} (some : text ≠ []) (blank : allBlank text = true) : Spelled ⟨none, text⟩
  | identifier {text : Text} (isIdentifier : IsIdentifier text) : Spelled ⟨some .identifier, text⟩
  | accessor {path : Text} (isPath : IsPath path) : Spelled ⟨some .accessor, '$' :: path⟩
  | quoted {inside : Text} (body : QuotedBody inside) : Spelled ⟨some .quoted, '"' :: (inside ++ ['"'])⟩
  | backticked {inside : Text} (bare : '\x60' ∉ inside) :
      Spelled ⟨some .backticked, '\x60' :: (inside ++ ['\x60'])⟩
  | openParen : Spelled ⟨some .openParen, ['(']⟩
  | closeParen : Spelled ⟨some .closeParen, [')']⟩
  | comma : Spelled ⟨some .comma, [',']⟩
  | colon : Spelled ⟨some .colon, [':']⟩

/-- The lexeme is a word, and before the text that follows no longer word of its class stands there. -/
structure Longest (lexeme : Lexeme) (after : Text) : Prop where
  spelled : lexeme.Spelled
  longest : ∀ other : Lexeme, other.Spelled → other.kind? = lexeme.kind? →
    other.text <+: lexeme.text ++ after → other.text.length ≤ lexeme.text.length

end Lexeme

/-- The text is made of words, in any way. -/
def Text.Lexical (text : Text) : Prop :=
  ∃ words : List Lexeme, (∀ word ∈ words, word.Spelled) ∧ text = words.flatMap Lexeme.text

namespace Lexeme

open Text

/-- A word has at least one character. -/
theorem Spelled.text_ne_nil {lexeme : Lexeme} (spelled : lexeme.Spelled) : lexeme.text ≠ [] := by
  cases spelled with
  | blanks some => exact some
  | identifier isIdentifier =>
      obtain ⟨first, rest, rfl, _⟩ := isIdentifier
      exact List.cons_ne_nil _ _
  | accessor | quoted | backticked | openParen | closeParen | comma | colon => exact List.cons_ne_nil _ _

/-- No class has the words of an end of line. -/
theorem Spelled.kind_ne_endOfLine {lexeme : Lexeme} (spelled : lexeme.Spelled) :
    lexeme.kind? ≠ some .endOfLine := by
  cases spelled <;> exact nofun

/-- A word is blank or begins with a character that is not. -/
theorem Spelled.blank_or_solid {lexeme : Lexeme} (spelled : lexeme.Spelled) :
    (∀ character ∈ lexeme.text, isBlank character = true) ∨
      ∀ first ∈ lexeme.text.head?, isBlank first = false := by
  cases spelled with
  | blanks _ blank => exact .inl (List.all_eq_true.1 blank)
  | identifier isIdentifier =>
      obtain ⟨first, rest, rfl, starts, _⟩ := isIdentifier
      refine .inr ?_
      rintro _ ⟨⟩
      exact isBlank_of_isWordPart (isWordPart_of_isWordStart starts)
  | accessor | quoted | backticked | openParen | closeParen | comma | colon =>
      refine .inr ?_
      rintro _ ⟨⟩
      rfl

/-- A word continues a name or does not begin with what does. -/
theorem Spelled.parts_or_apart {lexeme : Lexeme} (spelled : lexeme.Spelled) :
    (∀ character ∈ lexeme.text, isWordPart character = true) ∨ ∀ rest, Apart (lexeme.text ++ rest) := by
  cases spelled with
  | @blanks text some blank =>
      obtain ⟨first, others, rfl⟩ := List.exists_cons_of_ne_nil some
      have here := (List.forall_mem_cons.1 (List.all_eq_true.1 blank)).1
      refine .inr ?_
      rintro rest _ ⟨⟩
      refine ⟨isWordPart_of_isBlank here, ?_⟩
      rintro rfl
      cases here
  | identifier isIdentifier =>
      obtain ⟨first, rest, rfl, starts, parts⟩ := isIdentifier
      exact .inl (List.forall_mem_cons.2 ⟨isWordPart_of_isWordStart starts, parts⟩)
  | accessor | quoted | backticked | openParen | closeParen | comma | colon =>
      refine .inr ?_
      rintro rest _ ⟨⟩
      exact ⟨rfl, by decide⟩

/-- The body of a string reaches to its closing quote. -/
theorem quotedTail?_body {inside : Text} (body : QuotedBody inside) (rest : Text) :
    quotedTail? (inside ++ '"' :: rest) = some (inside ++ ['"'], rest) := by
  induction body with
  | nil => rfl
  | plain bare _ ih =>
      rw [List.cons_append, quotedTail?, ih]
      · rfl
      · exact bare.1
      · exact fun same => absurd same bare.2
      · exact fun _ _ same => absurd same bare.2
  | escape notFeed _ ih =>
      rw [List.cons_append, List.cons_append, quotedTail?, if_neg notFeed, ih]
      rfl

/-- What is read up to a closing quote is the body of a string. -/
theorem quotedTail?_isBody {text more after : Text} (found : quotedTail? text = some (more, after)) :
    ∃ inside, QuotedBody inside ∧ more = inside ++ ['"'] := by
  fun_induction quotedTail? text generalizing more after with
  | case1 => cases found
  | case2 rest =>
      cases found
      exact ⟨[], .nil, rfl⟩
  | case3 => cases found
  | case4 => cases found
  | case5 character rest notFeed ih =>
      obtain ⟨⟨tail, left⟩, closed, same⟩ := Option.map_eq_some_iff.1 found
      cases same
      obtain ⟨inside, body, rfl⟩ := ih closed
      exact ⟨'\\' :: character :: inside, .escape notFeed body, rfl⟩
  | case6 character rest notQuote notLast notEscape ih =>
      obtain ⟨⟨tail, left⟩, closed, same⟩ := Option.map_eq_some_iff.1 found
      cases same
      obtain ⟨inside, body, rfl⟩ := ih closed
      have notBackslash : character ≠ '\\' := by
        rintro rfl
        cases rest with
        | nil => exact notLast rfl rfl
        | cons next others => exact notEscape next others rfl rfl
      exact ⟨character :: inside, .plain ⟨notQuote, notBackslash⟩ body, rfl⟩

/-- What is read is a word of its class. -/
theorem read?_spelled {text after : Text} {lexeme : Lexeme} (found : read? text = some (lexeme, after)) :
    lexeme.Spelled := by
  unfold read? at found
  split at found
  · cases found
  · next character rest =>
      split at found
      · next blank =>
          cases found
          exact .blanks (List.cons_ne_nil _ _)
            (List.all_eq_true.2 (List.forall_mem_cons.2 ⟨blank, fun _ => List.mem_takeWhile_imp⟩))
      · split at found
        · next starts =>
            cases found
            exact .identifier ⟨character, _, rfl, starts, fun _ => List.mem_takeWhile_imp⟩
        · split at found
          · cases found
            exact .accessor (path_isPath rest)
          · obtain ⟨⟨more, left⟩, closed, same⟩ := Option.map_eq_some_iff.1 found
            cases same
            obtain ⟨inside, body, rfl⟩ := quotedTail?_isBody closed
            exact .quoted body
          · obtain ⟨⟨more, left⟩, closed, same⟩ := Option.map_eq_some_iff.1 found
            cases same
            obtain ⟨inside, rfl, bare⟩ := backtickedTail?_inside closed
            exact .backticked bare
          · obtain ⟨kind, mark, same⟩ := Option.map_eq_some_iff.1 found
            cases same
            unfold punctuation? at mark
            split at mark <;> cases mark <;> constructor

end Lexeme

namespace Text

open Lexeme

/-- Words of which each goes on with a run of some characters, or does not begin with one, are words behind this
run. -/
theorem Lexical.dropWhile {continues : Char → Bool}
    (uniform : ∀ word : Lexeme, word.Spelled → (∀ character ∈ word.text, continues character = true) ∨
      ∀ first ∈ word.text.head?, continues first = false)
    {text : Text} (lexical : text.Lexical) : Lexical (text.dropWhile continues) := by
  obtain ⟨words, spelled, rfl⟩ := lexical
  induction words with
  | nil => exact ⟨[], nofun, rfl⟩
  | cons word others ih =>
      obtain ⟨here, later⟩ := List.forall_mem_cons.1 spelled
      rw [List.flatMap_cons]
      rcases uniform word here with all | none
      · rw [List.dropWhile_append_of_pos all]
        exact ih later
      · obtain ⟨first, rest, same⟩ := List.exists_cons_of_ne_nil here.text_ne_nil
        have stops : continues first = false := none first (by rw [same]; rfl)
        refine ⟨word :: others, spelled, ?_⟩
        rw [same, List.cons_append, List.dropWhile_cons_of_neg (by simp [stops]), List.flatMap_cons, same,
          List.cons_append]

/-- Behind the tail of a path that words begin with there are words. -/
theorem Lexical.pathTail {text : Text} (lexical : text.Lexical) : Lexical (Lexeme.pathTail text).2 := by
  obtain ⟨words, spelled, rfl⟩ := lexical
  induction words with
  | nil => exact ⟨[], nofun, rfl⟩
  | cons word others ih =>
      obtain ⟨here, later⟩ := List.forall_mem_cons.1 spelled
      rw [List.flatMap_cons]
      rcases here.parts_or_apart with parts | apart
      · rw [pathTail_append_word parts]
        exact ih later
      · rw [pathTail_apart (apart _)]
        exact ⟨word :: others, spelled, rfl⟩

/-- Behind a path that words begin with there are words. -/
theorem Lexical.path {text : Text} (lexical : text.Lexical) : Lexical (Lexeme.path text).2 := by
  unfold Lexeme.path
  split
  · exact lexical
  · next character rest =>
      split
      · next starts =>
          have part := isWordPart_of_isWordStart starts
          have same : (Lexeme.pathTail (character :: rest)).2 = (Lexeme.pathTail rest).2 := by
            rw [Lexeme.pathTail, if_pos part]
            rintro _ _ rfl
            cases part
          exact same ▸ lexical.pathTail
      · exact lexical

end Text

namespace Lexeme

open Text

/-- A run of blanks is read with the blanks behind it. -/
theorem read?_blanks {text : Text} (nonempty : text ≠ []) (blank : allBlank text = true) (rest : Text) :
    read? (text ++ rest) = some (⟨none, text ++ rest.takeWhile isBlank⟩, rest.dropWhile isBlank) := by
  obtain ⟨first, others, rfl⟩ := List.exists_cons_of_ne_nil nonempty
  obtain ⟨here, later⟩ := List.forall_mem_cons.1 (List.all_eq_true.1 blank)
  unfold read?
  simp only [List.cons_append, here, if_true, List.takeWhile_append_of_pos later,
    List.dropWhile_append_of_pos later]

/-- An identifier is read with what continues it. -/
theorem read?_identifier {text : Text} (isIdentifier : IsIdentifier text) (rest : Text) :
    read? (text ++ rest) =
      some (⟨some .identifier, text ++ rest.takeWhile isWordPart⟩, rest.dropWhile isWordPart) := by
  obtain ⟨first, others, rfl, starts, parts⟩ := isIdentifier
  have solid := isBlank_of_isWordPart (isWordPart_of_isWordStart starts)
  unfold read?
  simp only [List.cons_append, solid, Bool.false_eq_true, if_false, starts, if_true,
    List.takeWhile_append_of_pos parts, List.dropWhile_append_of_pos parts]

/-- An accessor is read with what continues its path. Behind that there are words if the accessor stands before
words. -/
theorem read?_accessor {path : Text} (isPath : IsPath path) (rest : Text) :
    ∃ more after, read? ('$' :: (path ++ rest)) = some (⟨some .accessor, '$' :: (path ++ more)⟩, after) ∧
      (rest.Lexical → after.Lexical) := by
  rw [read?_dollar]
  rcases isPath with rfl | ⟨_, words, ⟨first, others, rfl, starts, parts⟩, identifiers, rfl⟩
  · exact ⟨_, _, rfl, fun words => words.path⟩
  · refine ⟨(pathTail rest).1, (pathTail rest).2, ?_, fun words => words.pathTail⟩
    simp only [List.cons_append, List.append_assoc]
    rw [Lexeme.path, if_pos starts, pathTail_append_word parts, pathTail_append_words identifiers]

/-- A string is read up to its closing quote. -/
theorem read?_quoted {inside : Text} (body : QuotedBody inside) (rest : Text) :
    read? ('"' :: (inside ++ '"' :: rest)) = some (⟨some .quoted, '"' :: (inside ++ ['"'])⟩, rest) := by
  rw [read?_quote, quotedTail?_body body]
  rfl

/-- At the head of a text that begins with a word, a lexeme of the class of this word is read that begins with it.
If there are words behind the word, there are words behind the lexeme. -/
theorem Spelled.read? {lexeme : Lexeme} (spelled : lexeme.Spelled) (rest : Text) :
    ∃ more after, Lexeme.read? (lexeme.text ++ rest) = some (⟨lexeme.kind?, lexeme.text ++ more⟩, after) ∧
      (rest.Lexical → after.Lexical) := by
  cases spelled with
  | blanks nonempty blank =>
      exact ⟨_, _, read?_blanks nonempty blank rest,
        fun words => words.dropWhile fun _ spelled => spelled.blank_or_solid⟩
  | identifier isIdentifier =>
      refine ⟨_, _, read?_identifier isIdentifier rest, fun words =>
        words.dropWhile fun word spelled => spelled.parts_or_apart.imp_right fun apart first head => ?_⟩
      have here := apart []
      rw [List.append_nil] at here
      exact (here first head).1
  | accessor isPath => exact read?_accessor isPath rest
  | quoted body =>
      refine ⟨[], rest, ?_, id⟩
      rw [List.append_nil, List.cons_append, List.append_assoc]
      exact read?_quoted body rest
  | backticked bare =>
      refine ⟨[], rest, ?_, id⟩
      rw [List.append_nil]
      exact Word.backticked_closed bare rest
  | openParen | closeParen | comma | colon => exact ⟨[], rest, rfl, id⟩

/-- All words at the head of a text have the same class. -/
theorem Spelled.kind_unique {first second : Lexeme} {text : Text} (spelled : first.Spelled)
    (other : second.Spelled) (leads : first.text <+: text) (leadsToo : second.text <+: text) :
    first.kind? = second.kind? := by
  obtain ⟨rest, rfl⟩ := leads
  obtain ⟨tail, same⟩ := leadsToo
  obtain ⟨_, _, read, _⟩ := spelled.read? rest
  obtain ⟨_, _, readToo, _⟩ := other.read? tail
  rw [same, read] at readToo
  exact congrArg (fun found => found.1.kind?) (Option.some.inj readToo)

/-- A lexeme is read exactly if it is the longest word of its class at the head of the text. -/
theorem read?_eq_some_iff {text after : Text} {lexeme : Lexeme} :
    read? text = some (lexeme, after) ↔ text = lexeme.text ++ after ∧ lexeme.Longest after := by
  constructor
  · intro found
    refine ⟨(read?_append found).symm, read?_spelled found, fun other spelled _ leads => ?_⟩
    rw [read?_append found] at leads
    obtain ⟨rest, rfl⟩ := leads
    obtain ⟨more, _, read, _⟩ := spelled.read? rest
    rw [found] at read
    cases read
    rw [List.length_append]
    exact Nat.le_add_right _ _
  · rintro ⟨rfl, longest⟩
    obtain ⟨more, left, read, _⟩ := longest.spelled.read? after
    have whole := read?_append read
    have short := longest.longest _ (read?_spelled read) rfl ⟨left, whole⟩
    obtain rfl : more = [] := by
      rw [List.length_append] at short
      exact List.length_eq_zero_iff.1 (by omega)
    rw [List.append_nil] at read whole
    rw [read, List.append_cancel_left whole]

/-- Nothing is read exactly if no word stands at the head of the text. -/
theorem read?_eq_none_iff {text : Text} :
    read? text = none ↔ ∀ word : Lexeme, word.Spelled → ¬word.text <+: text := by
  constructor
  · rintro absent word spelled ⟨rest, rfl⟩
    obtain ⟨_, _, read, _⟩ := spelled.read? rest
    rw [absent] at read
    cases read
  · intro none
    cases read : read? text with
    | none => rfl
    | some found => exact absurd ⟨_, read?_append read⟩ (none found.1 (read?_spelled read))

end Lexeme

end Stencil
