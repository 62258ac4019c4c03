/-
This file says how the words of directive text are written, and shows that a written word is read back before
any text that does not continue a name.
-/
import Stencil.Proofs.Text.Quote
import Stencil.Proofs.Token.Scan

namespace Stencil

namespace Text

/-- An identifier has ASCII letters, digits and underscores, and does not begin with a digit. -/
def IsIdentifier (text : Text) : Prop :=
  ∃ first rest, text = first :: rest ∧ Lexeme.isWordStart first = true ∧
    ∀ character ∈ rest, Lexeme.isWordPart character = true

/-- A dotted path is empty or has identifiers with dots between them. -/
def IsPath (text : Text) : Prop :=
  text = [] ∨ ∃ (first : Text) (others : List Text), IsIdentifier first ∧
    (∀ word ∈ others, IsIdentifier word) ∧ text = first ++ others.flatMap ('.' :: ·)

/-- The text does not begin with a character that continues a name. -/
def Apart (text : Text) : Prop :=
  ∀ first ∈ text.head?, Lexeme.isWordPart first = false ∧ first ≠ '.'

end Text

namespace Lexeme

open Text

theorem isWordPart_of_isWordStart {character : Char} (starts : isWordStart character = true) :
    isWordPart character = true := by
  simp only [isWordStart, isWordPart, Bool.or_eq_true, Char.isAlphanum] at starts ⊢
  exact starts.imp_left .inl

/-- The characters of names have code points between the blanks. -/
theorem isWordPart_bounds {character : Char} (part : isWordPart character = true) :
    33 ≤ character.toNat ∧ character.toNat ≤ 126 := by
  unfold isWordPart Char.isAlphanum Char.isAlpha Char.isUpper Char.isLower Char.isDigit at part
  simp only [Bool.or_eq_true, Bool.and_eq_true, decide_eq_true_eq, beq_iff_eq, UInt32.le_iff_toNat_le,
    ge_iff_le] at part
  change (((65 ≤ character.toNat ∧ character.toNat ≤ 90) ∨
    (97 ≤ character.toNat ∧ character.toNat ≤ 122)) ∨
      (48 ≤ character.toNat ∧ character.toNat ≤ 57)) ∨ character = '_' at part
  rcases part with letter | rfl
  · omega
  · decide

theorem isBlank_of_isWordPart {character : Char} (part : isWordPart character = true) :
    isBlank character = false := by
  have bounds := isWordPart_bounds part
  simp only [isBlank, Bool.or_eq_false_iff, Bool.and_eq_false_iff, decide_eq_false_iff_not,
    beq_eq_false_iff_ne]
  omega

theorem isWordPart_of_isBlank {character : Char} (blank : isBlank character = true) :
    isWordPart character = false := by
  refine Bool.eq_false_iff.2 fun part => ?_
  rw [isBlank_of_isWordPart part] at blank
  cases blank

/-- Blanks before a text keep it apart. -/
theorem apart_blanks {blanks : Text} (blank : allBlank blanks = true) {rest : Text} (apart : Apart rest) :
    Apart (blanks ++ rest) := by
  cases blanks with
  | nil => exact apart
  | cons first others =>
      have here : isBlank first = true := List.all_eq_true.1 blank first List.mem_cons_self
      intro other head
      cases head
      refine ⟨isWordPart_of_isBlank here, ?_⟩
      rintro rfl
      cases here

theorem takeWhile_apart {word rest : Text} (parts : ∀ character ∈ word, isWordPart character = true)
    (apart : Apart rest) :
    (word ++ rest).takeWhile isWordPart = word ∧ (word ++ rest).dropWhile isWordPart = rest := by
  rw [List.takeWhile_append_of_pos parts, List.dropWhile_append_of_pos parts]
  cases rest with
  | nil => simp
  | cons first others =>
      have none := (apart first rfl).1
      rw [List.takeWhile_cons, List.dropWhile_cons, none, if_neg Bool.false_ne_true,
        if_neg Bool.false_ne_true, List.append_nil]
      exact ⟨rfl, rfl⟩

/-- The tail of a path goes on over the characters of a name. -/
theorem pathTail_append_word {word : Text} (parts : ∀ character ∈ word, isWordPart character = true)
    (rest : Text) : pathTail (word ++ rest) = (word ++ (pathTail rest).1, (pathTail rest).2) := by
  induction word with
  | nil => rfl
  | cons character others ih =>
      obtain ⟨here, later⟩ := List.forall_mem_cons.1 parts
      have notDot : ∀ next more, character = '.' → others ++ rest = next :: more → False := by
        rintro _ _ rfl
        cases here
      rw [List.cons_append, pathTail, if_pos here, ih later]
      · rfl
      · exact notDot

theorem pathTail_apart {rest : Text} (apart : Apart rest) : pathTail rest = ([], rest) := by
  cases rest with
  | nil => rfl
  | cons first others =>
      obtain ⟨noPart, noDot⟩ := apart first rfl
      rw [pathTail, noPart, if_neg Bool.false_ne_true]
      exact fun _ _ same => absurd same noDot

/-- The tail of a path goes on over identifiers behind dots. -/
theorem pathTail_append_words {words : List Text} (identifiers : ∀ word ∈ words, IsIdentifier word)
    (rest : Text) : pathTail (words.flatMap ('.' :: ·) ++ rest) =
      (words.flatMap ('.' :: ·) ++ (pathTail rest).1, (pathTail rest).2) := by
  induction words with
  | nil => rfl
  | cons word others ih =>
      obtain ⟨⟨first, more, rfl, starts, parts⟩, later⟩ := List.forall_mem_cons.1 identifiers
      simp only [List.flatMap_cons, List.append_assoc, List.cons_append]
      rw [pathTail, if_pos starts, pathTail_append_word parts, ih later]

/-- The words behind the first of a path are its tail. -/
theorem pathTail_words {words : List Text} (identifiers : ∀ word ∈ words, IsIdentifier word)
    {rest : Text} (apart : Apart rest) :
    pathTail (words.flatMap ('.' :: ·) ++ rest) = (words.flatMap ('.' :: ·), rest) := by
  rw [pathTail_append_words identifiers, pathTail_apart apart, List.append_nil]

/-- A path is read back. -/
theorem path_written {text rest : Text} (isPath : IsPath text) (apart : Apart rest) :
    path (text ++ rest) = (text, rest) := by
  rcases isPath with rfl | ⟨_, words, ⟨first, more, rfl, starts, parts⟩, identifiers, rfl⟩
  · cases rest with
    | nil => rfl
    | cons first others =>
        have noStart : isWordStart first = false := by
          refine Bool.eq_false_iff.2 fun starts => ?_
          have part := isWordPart_of_isWordStart starts
          rw [(apart first rfl).1] at part
          cases part
        rw [List.nil_append, path, noStart, if_neg Bool.false_ne_true]
  · simp only [List.cons_append, List.append_assoc]
    rw [path, if_pos starts, pathTail_append_word parts, pathTail_words identifiers apart]

/-- The tail of a path continues a name and then has identifiers behind dots. -/
theorem pathTail_isWords (text : Text) :
    ∃ (word : Text) (words : List Text), (∀ character ∈ word, isWordPart character = true) ∧
      (∀ word ∈ words, IsIdentifier word) ∧ (pathTail text).1 = word ++ words.flatMap ('.' :: ·) := by
  fun_induction pathTail text with
  | case1 next rest starts more after same ih =>
      obtain ⟨word, words, parts, identifiers, tail⟩ := ih
      refine ⟨[], (next :: word) :: words, List.forall_mem_nil _, List.forall_mem_cons.2
        ⟨⟨next, word, rfl, starts, parts⟩, identifiers⟩, ?_⟩
      rw [same] at tail
      simpa using tail
  | case2 => exact ⟨[], [], List.forall_mem_nil _, List.forall_mem_nil _, rfl⟩
  | case3 character rest _ part more after same ih =>
      obtain ⟨word, words, parts, identifiers, tail⟩ := ih
      refine ⟨character :: word, words, List.forall_mem_cons.2 ⟨part, parts⟩, identifiers, ?_⟩
      rw [same] at tail
      simpa using tail
  | case4 => exact ⟨[], [], List.forall_mem_nil _, List.forall_mem_nil _, rfl⟩
  | case5 => exact ⟨[], [], List.forall_mem_nil _, List.forall_mem_nil _, rfl⟩

/-- What is read as a path is one. -/
theorem path_isPath (text : Text) : IsPath (path text).1 := by
  unfold path
  split
  · exact .inl rfl
  · next character rest =>
      split
      · next starts =>
          obtain ⟨word, words, parts, identifiers, tail⟩ := pathTail_isWords rest
          refine .inr ⟨character :: word, words, ⟨character, word, rfl, starts, parts⟩, identifiers, ?_⟩
          dsimp only
          rw [tail, List.cons_append]
      · exact .inl rfl

/-- An escaped text reaches to the quote behind it. -/
theorem quotedTail?_escaped (text rest : Text) :
    quotedTail? (escaped text ++ '"' :: rest) = some (escaped text ++ ['"'], rest) := by
  induction text with
  | nil => rfl
  | cons character others ih =>
      rw [escaped_cons]
      split
      · next special =>
          have notFeed : character ≠ '\n' := by rcases special with rfl | rfl <;> decide
          simp only [List.cons_append, List.nil_append]
          rw [quotedTail?, if_neg notFeed, ih]
          rfl
      · next plain =>
          rw [not_or] at plain
          simp only [List.cons_append, List.nil_append]
          rw [quotedTail?, ih]
          · rfl
          · exact plain.1
          · exact fun same => absurd same plain.2
          · exact fun _ _ same => absurd same plain.2

/-- A text without backticks reaches to the backtick behind it. -/
theorem backtickedTail?_bare {text : Text} (bare : '\x60' ∉ text) (rest : Text) :
    backtickedTail? (text ++ '\x60' :: rest) = some (text ++ ['\x60'], rest) := by
  induction text with
  | nil => rfl
  | cons character others ih =>
      rw [List.mem_cons, not_or] at bare
      rw [List.cons_append, backtickedTail?, if_neg (Ne.symm bare.1), ih bare.2]
      rfl

/-- A backtick string has no backtick before its last. -/
theorem backtickedTail?_inside {text more after : Text}
    (found : backtickedTail? text = some (more, after)) :
    ∃ inside, more = inside ++ ['\x60'] ∧ '\x60' ∉ inside := by
  fun_induction backtickedTail? text generalizing more after with
  | case1 => cases found
  | case2 rest =>
      cases found
      exact ⟨[], rfl, List.not_mem_nil⟩
  | case3 character rest other ih =>
      obtain ⟨⟨tail, left⟩, closed, same⟩ := Option.map_eq_some_iff.1 found
      cases same
      obtain ⟨inside, rfl, bare⟩ := ih closed
      exact ⟨character :: inside, rfl, List.not_mem_cons_of_ne_of_not_mem (Ne.symm other) bare⟩

end Lexeme

/-- A word of directive text is the text of a token with its class. -/
structure Word where
  kind : Token.Kind
  text : Text
  deriving DecidableEq

namespace Word

open Lexeme Text

/-- The word is read off the front of a text. -/
def Leads (word : Word) (rest : Text) : Prop :=
  read? (word.text ++ rest) = some (⟨some word.kind, word.text⟩, rest)

/-- The word is read whatever follows it. -/
def Closed (word : Word) : Prop := ∀ rest, word.Leads rest

def name (text : Text) : Word := ⟨.identifier, text⟩

def accessor (path : Text) : Word := ⟨.accessor, '$' :: path⟩

def quoted (text : Text) : Word := ⟨.quoted, quote text⟩

def backticked (text : Text) : Word := ⟨.backticked, '\x60' :: (text ++ ['\x60'])⟩

def openParen : Word := ⟨.openParen, ['(']⟩

def closeParen : Word := ⟨.closeParen, [')']⟩

def comma : Word := ⟨.comma, [',']⟩

def colon : Word := ⟨.colon, [':']⟩

theorem name_leads {text rest : Text} (identifier : IsIdentifier text) (apart : Apart rest) :
    (name text).Leads rest := by
  obtain ⟨first, more, rfl, starts, parts⟩ := identifier
  have part := isWordPart_of_isWordStart starts
  obtain ⟨taken, dropped⟩ := takeWhile_apart parts apart
  unfold Leads read?
  simp only [name, List.cons_append, isBlank_of_isWordPart part, starts, taken, dropped,
    Bool.false_eq_true, if_false, if_true]

theorem accessor_leads {path rest : Text} (isPath : IsPath path) (apart : Apart rest) :
    (accessor path).Leads rest := by
  rw [Leads, accessor, List.cons_append, read?_dollar, path_written isPath apart]

theorem quoted_closed (text : Text) : (quoted text).Closed := by
  intro rest
  rw [Leads, quoted, quote, List.cons_append, List.append_assoc, List.singleton_append, read?_quote,
    quotedTail?_escaped]
  rfl

theorem backticked_closed {text : Text} (bare : '\x60' ∉ text) : (backticked text).Closed := by
  intro rest
  rw [Leads, backticked, List.cons_append, List.append_assoc, List.singleton_append, read?_backtick,
    backtickedTail?_bare bare]
  rfl

theorem openParen_closed : openParen.Closed := fun _ => rfl

theorem closeParen_closed : closeParen.Closed := fun _ => rfl

theorem comma_closed : comma.Closed := fun _ => rfl

theorem colon_closed : colon.Closed := fun _ => rfl

end Word

end Stencil
