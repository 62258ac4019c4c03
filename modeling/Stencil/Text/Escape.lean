/-
This file writes one character so that it can be seen in a message.
-/
import Stencil.Text.Basic

namespace Stencil.Text

/-- The lowercase hexadecimal digits of a number, without leading zeros. -/
def hexDigits (number : Nat) : Text := Nat.toDigits 16 number

/-- Quotes, the backslash and the three common control characters get a backslash; other
characters outside printable ASCII get their code point in braces. -/
def escape (character : Char) : Text :=
  match character with
  | '\t' => ['\\', 't']
  | '\r' => ['\\', 'r']
  | '\n' => ['\\', 'n']
  | '\'' | '"' | '\\' => ['\\', character]
  | _ =>
      if ' ' ≤ character ∧ character ≤ '~' then [character]
      else ['\\', 'u', '{'] ++ hexDigits character.toNat ++ ['}']

end Stencil.Text
