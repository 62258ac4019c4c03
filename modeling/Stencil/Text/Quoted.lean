/-
This file resolves the quotes and the backslash escapes of a quoted text.
-/
import Stencil.Text.Basic

namespace Stencil.Text.Quoted

/-- A hexadecimal word is at most 32 bits wide. -/
inductive HexFault where
  | empty
  | invalidDigit
  | overflow
  deriving Repr, DecidableEq

/-- A Unicode escape fails on its brace, on its digits, or on its code point. -/
inductive CodeFault where
  | noBrace
  | badDigits (digits : Text) (fault : HexFault)
  | notCharacter (value : Nat)
  deriving Repr, DecidableEq

/-- An escape fails at a character index of the quoted text. -/
inductive Fault where
  | unknownEscape (escape : Text) (index : Nat)
  | badCode (fault : CodeFault) (index : Nat)
  deriving Repr, DecidableEq

/-- The value of one hexadecimal digit of either case. -/
def hexDigit? (character : Char) : Option Nat :=
  if '0' ≤ character ∧ character ≤ '9' then some (character.toNat - '0'.toNat)
  else if 'a' ≤ character ∧ character ≤ 'f' then some (character.toNat - 'a'.toNat + 10)
  else if 'A' ≤ character ∧ character ≤ 'F' then some (character.toNat - 'A'.toNat + 10)
  else none

/-- The digits are read from the left, and the first fault is reported. -/
def hexValue (value : Nat) : Text → Except HexFault Nat
  | [] => .ok value
  | digit :: rest =>
      match hexDigit? digit with
      | none => .error .invalidDigit
      | some amount =>
          let next := 16 * value + amount
          if next < 2 ^ 32 then hexValue next rest else .error .overflow

/-- A hexadecimal word has at least one digit, and may have a plus sign before it. -/
def hexWord (digits : Text) : Except HexFault Nat :=
  match digits with
  | [] => .error .empty
  | ['+'] => .error .invalidDigit
  | '+' :: rest => hexValue 0 rest
  | _ => hexValue 0 digits

/-- The character that the digits between the braces denote. -/
def codeCharacter (digits : Text) : Except CodeFault Char :=
  match hexWord digits with
  | .error fault => .error (.badDigits digits fault)
  | .ok value =>
      if value.isValidChar then .ok (Char.ofNat value) else .error (.notCharacter value)

/-- The character that a one letter escape denotes. -/
def escaped? (letter : Char) : Option Char :=
  match letter with
  | 'a' => some '\x07'
  | 'b' => some '\x08'
  | 'v' => some '\x0B'
  | 'f' => some '\x0C'
  | 'n' => some '\n'
  | 'r' => some '\r'
  | 't' => some '\t'
  | 'e' | 'E' => some '\x1B'
  | '\\' | '\'' | '"' | '$' | ' ' | '\x60' => some letter
  | _ => none

/-- What the reader is inside of. Digits are kept in reverse. -/
inductive Mode where
  | plain
  | single
  | double
  | escape (backslash : Nat)
  | brace (index : Nat)
  | code (index : Nat) (digits : Text)
  deriving Repr, DecidableEq

/-- Quotes switch the mode and are dropped; a backslash escapes inside double quotes only. -/
def decodeFrom (mode : Mode) (index : Nat) : Text → Except Fault Text
  | [] =>
      match mode with
      | .plain | .single | .double => .ok []
      | .escape backslash => .error (.unknownEscape ['\\'] backslash)
      | .brace start => .error (.badCode .noBrace start)
      | .code start digits =>
          match codeCharacter digits.reverse with
          | .error fault => .error (.badCode fault start)
          | .ok character => .ok [character]
  | character :: rest =>
      match mode with
      | .plain =>
          if character = '\'' then decodeFrom .single (index + 1) rest
          else if character = '"' then decodeFrom .double (index + 1) rest
          else (decodeFrom .plain (index + 1) rest).map (character :: ·)
      | .single =>
          if character = '\'' then decodeFrom .plain (index + 1) rest
          else (decodeFrom .single (index + 1) rest).map (character :: ·)
      | .double =>
          if character = '"' then decodeFrom .plain (index + 1) rest
          else if character = '\\' then decodeFrom (.escape index) (index + 1) rest
          else (decodeFrom .double (index + 1) rest).map (character :: ·)
      | .escape _ =>
          if character = 'u' then decodeFrom (.brace index) (index + 1) rest
          else
            match escaped? character with
            | none => .error (.unknownEscape ['\\', character] index)
            | some denoted => (decodeFrom .double (index + 1) rest).map (denoted :: ·)
      | .brace start =>
          if character = '{' then decodeFrom (.code start []) (index + 1) rest
          else .error (.badCode .noBrace start)
      | .code start digits =>
          if character = '}' then
            match codeCharacter digits.reverse with
            | .error fault => .error (.badCode fault start)
            | .ok denoted => (decodeFrom .double (index + 1) rest).map (denoted :: ·)
          else decodeFrom (.code start (character :: digits)) (index + 1) rest

/-- The text without its quotes and with its escapes resolved. -/
def decode (text : Text) : Except Fault Text := decodeFrom .plain 0 text

/-- The words for a bad hexadecimal number. -/
def HexFault.message : HexFault → String
  | .empty => "cannot parse integer from empty string"
  | .invalidDigit => "invalid digit found in string"
  | .overflow => "number too large to fit in target type"

/-- The words for a bad Unicode escape. -/
def CodeFault.message : CodeFault → String
  | .noBrace => "expected '\x7b' character in unicode escape"
  | .badDigits digits fault =>
      "could not parse " ++ String.ofList digits ++ " as u32 hex: " ++ fault.message
  | .notCharacter value => "could not parse " ++ toString value ++ " as a unicode char"

/-- The words for a bad escape name the whole quoted text. -/
def Fault.message (text : Text) : Fault → String
  | .unknownEscape escape index =>
      "invalid escape " ++ String.ofList escape ++ " at " ++ toString index ++ " in " ++
        String.ofList text
  | .badCode fault index =>
      "\\u could not be parsed at " ++ toString index ++ " in " ++ String.ofList text ++ ": " ++
        fault.message

end Stencil.Text.Quoted
