/-
This file cuts directive text into tokens.
-/
import Stencil.Error

namespace Stencil

/-- A lexeme is a run of blanks, which has no class, or the text of one token. -/
structure Lexeme where
  kind? : Option Token.Kind
  text : Text
  deriving Repr, DecidableEq

namespace Lexeme

/-- A word starts with an ASCII letter or an underscore. -/
def isWordStart (character : Char) : Bool := character.isAlpha || character == '_'

/-- A word goes on with ASCII letters, digits and underscores. -/
def isWordPart (character : Char) : Bool := character.isAlphanum || character == '_'

/-- The rest of a dotted path, cut off where no word goes on and no word follows a dot. -/
def pathTail : Text → Text × Text
  | '.' :: next :: rest =>
      if isWordStart next then
        let (more, after) := pathTail rest
        ('.' :: next :: more, after)
      else ([], '.' :: next :: rest)
  | character :: rest =>
      if isWordPart character then
        let (more, after) := pathTail rest
        (character :: more, after)
      else ([], character :: rest)
  | [] => ([], [])

/-- A dotted path, empty when no word starts here. -/
def path (text : Text) : Text × Text :=
  match text with
  | [] => ([], [])
  | character :: rest =>
      if isWordStart character then
        let (more, after) := pathTail rest
        (character :: more, after)
      else ([], text)

/-- The rest of a quoted string up to its closing quote. A backslash protects any character
but a line feed. -/
def quotedTail? : Text → Option (Text × Text)
  | [] => none
  | '"' :: rest => some (['"'], rest)
  | '\\' :: [] => none
  | '\\' :: character :: rest =>
      if character = '\n' then none
      else (quotedTail? rest).map fun (more, after) => ('\\' :: character :: more, after)
  | character :: rest => (quotedTail? rest).map fun (more, after) => (character :: more, after)

/-- The rest of a backtick string up to its closing backtick. -/
def backtickedTail? : Text → Option (Text × Text)
  | [] => none
  | character :: rest =>
      if character = '\x60' then some ([character], rest)
      else (backtickedTail? rest).map fun (more, after) => (character :: more, after)

/-- The class of a punctuation character. -/
def punctuation? (character : Char) : Option Token.Kind :=
  match character with
  | '(' => some .openParen
  | ')' => some .closeParen
  | ',' => some .comma
  | ':' => some .colon
  | _ => none

/-- The lexeme at the head of a text, with the text after it. -/
def read? : Text → Option (Lexeme × Text)
  | [] => none
  | character :: rest =>
      if Text.isBlank character then
        some (⟨none, character :: rest.takeWhile Text.isBlank⟩, rest.dropWhile Text.isBlank)
      else if isWordStart character then
        some (⟨some .identifier, character :: rest.takeWhile isWordPart⟩, rest.dropWhile isWordPart)
      else
        match character with
        | '$' => some (⟨some .accessor, '$' :: (path rest).1⟩, (path rest).2)
        | '"' => (quotedTail? rest).map fun (more, after) => (⟨some .quoted, '"' :: more⟩, after)
        | '\x60' =>
            (backtickedTail? rest).map fun (more, after) =>
              (⟨some .backticked, '\x60' :: more⟩, after)
        | _ => (punctuation? character).map fun kind => (⟨some kind, [character]⟩, rest)

theorem pathTail_append (text : Text) : (pathTail text).1 ++ (pathTail text).2 = text := by
  fun_induction pathTail text <;> simp_all

theorem path_append (text : Text) : (path text).1 ++ (path text).2 = text := by
  unfold path
  split
  · rfl
  · split
    · simp [pathTail_append]
    · rfl

theorem quotedTail?_append {text more after : Text} (found : quotedTail? text = some (more, after)) :
    more ++ after = text := by
  fun_induction quotedTail? text generalizing more after with
  | case1 => simp at found
  | case2 => obtain ⟨rfl, rfl⟩ := Prod.mk.inj (Option.some.inj found); rfl
  | case3 => simp at found
  | case4 => simp at found
  | case5 character rest other ih =>
      obtain ⟨⟨inside, left⟩, tail, same⟩ := Option.map_eq_some_iff.1 found
      obtain ⟨rfl, rfl⟩ := Prod.mk.inj same
      simp [ih tail]
  | case6 character rest _ _ _ ih =>
      obtain ⟨⟨inside, left⟩, tail, same⟩ := Option.map_eq_some_iff.1 found
      obtain ⟨rfl, rfl⟩ := Prod.mk.inj same
      simp [ih tail]

theorem backtickedTail?_append {text more after : Text}
    (found : backtickedTail? text = some (more, after)) : more ++ after = text := by
  fun_induction backtickedTail? text generalizing more after with
  | case1 => simp at found
  | case2 => obtain ⟨rfl, rfl⟩ := Prod.mk.inj (Option.some.inj found); rfl
  | case3 character rest other ih =>
      obtain ⟨⟨inside, left⟩, tail, same⟩ := Option.map_eq_some_iff.1 found
      obtain ⟨rfl, rfl⟩ := Prod.mk.inj same
      simp [ih tail]

/-- A lexeme and the text after it make up the text. -/
theorem read?_append {text : Text} {lexeme : Lexeme} {after : Text}
    (found : read? text = some (lexeme, after)) : lexeme.text ++ after = text := by
  unfold read? at found
  split at found
  · simp at found
  · next character rest =>
      split at found
      · cases found
        simp [List.takeWhile_append_dropWhile]
      · split at found
        · cases found
          simp [List.takeWhile_append_dropWhile]
        · split at found
          · cases found
            simp [path_append]
          · obtain ⟨⟨inside, left⟩, tail, same⟩ := Option.map_eq_some_iff.1 found
            cases same
            simp [quotedTail?_append tail]
          · obtain ⟨⟨inside, left⟩, tail, same⟩ := Option.map_eq_some_iff.1 found
            cases same
            simp [backtickedTail?_append tail]
          · obtain ⟨kind, _, same⟩ := Option.map_eq_some_iff.1 found
            cases same
            rfl

/-- A lexeme has at least one character. -/
theorem read?_text_ne_nil {text : Text} {lexeme : Lexeme} {after : Text}
    (found : read? text = some (lexeme, after)) : lexeme.text ≠ [] := by
  unfold read? at found
  split at found
  · simp at found
  · split at found
    · cases found; simp
    · split at found
      · cases found; simp
      · split at found
        · cases found; simp
        all_goals
          obtain ⟨_, _, same⟩ := Option.map_eq_some_iff.1 found
          cases same; simp

theorem read?_length_lt {text : Text} {lexeme : Lexeme} {after : Text}
    (found : read? text = some (lexeme, after)) : after.length < text.length := by
  have whole := congrArg List.length (read?_append found)
  have positive := List.length_pos_iff.2 (read?_text_ne_nil found)
  simp only [List.length_append] at whole
  omega

end Lexeme

namespace Token

/-- The tokens of a directive text that starts at a byte offset and a place. They end with an
end of line. -/
def scan (line column start : Nat) (text : Text) : Except Error (List Token) :=
  match _found : Lexeme.read? text with
  | none =>
      match text with
      | [] => .ok [⟨.endOfLine, start, [], line, column⟩]
      | character :: _ => .error (.lexical ⟨line, column⟩ (.unexpected character))
  | some (lexeme, after) =>
      let width := Text.byteSize lexeme.text
      (scan line (column + width) (start + width) after).map fun tokens =>
        match lexeme.kind? with
        | none => tokens
        | some kind => ⟨kind, start, lexeme.text, line, column⟩ :: tokens
termination_by text.length
decreasing_by exact Lexeme.read?_length_lt (by assumption)

end Token

end Stencil
