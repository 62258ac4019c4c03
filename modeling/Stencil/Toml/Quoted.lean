/-
This file reads the strings of a document.
-/
import Stencil.Text.Quoted

namespace Stencil.Toml.Quoted

/-- A string has no control characters but the tab. -/
def isPlain (character : Char) : Bool :=
  character = '\t' || (0x20 ≤ character.toNat && character.toNat != 0x7F)

/-- A literal string up to its closing quote, and the text after it. -/
def literalTail? : Text → Option (Text × Text)
  | [] => none
  | '\'' :: rest => some ([], rest)
  | character :: rest =>
      if isPlain character then
        (literalTail? rest).map fun (more, after) => (character :: more, after)
      else none

/-- The number of hexadecimal digits behind an escape letter. -/
def codeLength? (letter : Char) : Option Nat :=
  match letter with
  | 'x' => some 2
  | 'u' => some 4
  | 'U' => some 8
  | _ => none

/-- The character that a letter behind a backslash stands for. -/
def escaped? (letter : Char) : Option Char :=
  match letter with
  | 'b' => some '\x08'
  | 't' => some '\t'
  | 'n' => some '\n'
  | 'f' => some '\x0C'
  | 'r' => some '\r'
  | 'e' => some '\x1B'
  | '"' => some '"'
  | '\\' => some '\\'
  | _ => none

/-- The character that an escape stands for, without its backslash, and the text after it. -/
def escape? (text : Text) : Option (Char × Text) :=
  match text with
  | [] => none
  | letter :: rest =>
      match codeLength? letter with
      | none => (escaped? letter).map fun character => (character, rest)
      | some length =>
          let digits := rest.take length
          if digits.length = length && digits.all fun digit => (Text.Quoted.hexDigit? digit).isSome then
            match Text.Quoted.codeCharacter digits with
            | .ok character => some (character, rest.drop length)
            | .error _ => none
          else none

theorem escape?_length_lt {text after : Text} {character : Char}
    (success : escape? text = some (character, after)) : after.length < text.length := by
  unfold escape? at success
  split at success
  · cases success
  · split at success
    · obtain ⟨_, _, same⟩ := Option.map_eq_some_iff.1 success
      cases same
      simp
    · dsimp only at success
      split at success
      · split at success
        · cases success
          simp only [List.length_drop, List.length_cons]
          omega
        · cases success
      · cases success

/-- A basic string up to its closing quote, and the text after it. -/
def basicTail? (text : Text) : Option (Text × Text) :=
  match text with
  | [] => none
  | '"' :: rest => some ([], rest)
  | '\\' :: rest =>
      match _success : escape? rest with
      | none => none
      | some (character, after) =>
          (basicTail? after).map fun (more, left) => (character :: more, left)
  | character :: rest =>
      if isPlain character then
        (basicTail? rest).map fun (more, after) => (character :: more, after)
      else none
termination_by text.length
decreasing_by
  · have := escape?_length_lt (by assumption)
    simp only [List.length_cons]
    omega
  · simp

/-- The number of times that a character stands at the head of a text. -/
def leadCount (quote : Char) (text : Text) : Nat := (text.takeWhile (· == quote)).length

/-- Three quotes close a string of several lines. Up to two more before them belong to it. -/
def closing? (quote : Char) (text : Text) : Option (Text × Text) :=
  let count := min (leadCount quote text) 5
  if 3 ≤ count then some (List.replicate (count - 3) quote, text.drop count) else none

/-- A literal string of several lines up to its closing quotes, and the text after it. -/
def literalLines? (text : Text) : Option (Text × Text) :=
  match closing? '\'' text with
  | some found => some found
  | none =>
      match text with
      | [] => none
      | '\r' :: '\n' :: rest =>
          (literalLines? rest).map fun (more, after) => ('\r' :: '\n' :: more, after)
      | character :: rest =>
          if isPlain character || character = '\n' then
            (literalLines? rest).map fun (more, after) => (character :: more, after)
          else none

/-- The text behind spaces, tabs and line ends. -/
def dropGap : Text → Text
  | '\n' :: rest | '\r' :: '\n' :: rest | ' ' :: rest | '\t' :: rest => dropGap rest
  | text => text

/-- The text behind a backslash at the end of a line: blanks and line ends are passed over. -/
def folded? (text : Text) : Option Text :=
  match text.dropWhile fun character => character == ' ' || character == '\t' with
  | '\n' :: rest | '\r' :: '\n' :: rest => some (dropGap rest)
  | _ => none

/-- A basic string of several lines up to its closing quotes, and the text after it. -/
def basicLines? : (fuel : Nat) → Text → Option (Text × Text)
  | 0, _ => none
  | fuel + 1, text =>
      match closing? '"' text with
      | some found => some found
      | none =>
          match text with
          | [] => none
          | '\\' :: rest =>
              match folded? rest with
              | some after => basicLines? fuel after
              | none =>
                  (escape? rest).bind fun (character, after) =>
                    (basicLines? fuel after).map fun (more, left) => (character :: more, left)
          | '\r' :: '\n' :: rest =>
              (basicLines? fuel rest).map fun (more, after) => ('\r' :: '\n' :: more, after)
          | character :: rest =>
              if isPlain character || character = '\n' then
                (basicLines? fuel rest).map fun (more, after) => (character :: more, after)
              else none

/-- A line end behind the opening quotes does not belong to the string. -/
def withoutFirstLineEnd : Text → Text
  | '\n' :: rest => rest
  | '\r' :: '\n' :: rest => rest
  | text => text

/-- A string on one line, from its opening quote on, and the text after it. -/
def line? (text : Text) : Option (Text × Text) :=
  match text with
  | '"' :: rest => basicTail? rest
  | '\'' :: rest => literalTail? rest
  | _ => none

/-- A string, from its opening quotes on, and the text after it. -/
def string? (text : Text) : Option (Text × Text) :=
  match text with
  | '"' :: '"' :: '"' :: rest => basicLines? (rest.length + 1) (withoutFirstLineEnd rest)
  | '\'' :: '\'' :: '\'' :: rest => literalLines? (withoutFirstLineEnd rest)
  | _ => line? text

end Stencil.Toml.Quoted
