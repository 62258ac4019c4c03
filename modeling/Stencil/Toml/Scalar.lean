/-
This file reads the numbers, moments and truth values of a document.
-/
import Stencil.Text.Quoted
import Stencil.Toml.Value

namespace Stencil.Toml.Scalar

/-- The digits of a number, without the underscores between them. -/
def digits? (isDigit : Char → Bool) : Text → Option Text
  | [] => none
  | [digit] => if isDigit digit then some [digit] else none
  | digit :: '_' :: rest => if isDigit digit then (digits? isDigit rest).map (digit :: ·) else none
  | digit :: rest => if isDigit digit then (digits? isDigit rest).map (digit :: ·) else none

/-- The value of digits to a base. -/
def valueOf (base : Nat) (digits : Text) : Nat :=
  digits.foldl (fun value digit => base * value + ((Text.Quoted.hexDigit? digit).getD 0)) 0

/-- A text that starts with zero has one digit. -/
def hasNoLeadingZero (digits : Text) : Bool :=
  match digits with
  | '0' :: _ :: _ => false
  | _ => true

/-- The sign of a number and the text after it. -/
def sign (text : Text) : Bool × Text :=
  match text with
  | '+' :: rest => (false, rest)
  | '-' :: rest => (true, rest)
  | _ => (false, text)

/-- The decimal digits of a text that has no leading zero. -/
def decimal? (text : Text) : Option Text := (digits? Char.isDigit text).filter hasNoLeadingZero

/-- The widest integers have 128 bits. -/
def bounded? (value : Int) : Option Int :=
  match value with
  | .ofNat magnitude => if magnitude < Nat.pow 2 128 then some value else none
  | .negSucc magnitude => if magnitude < Nat.pow 2 127 then some value else none

/-- An integer is decimal with a sign, or has a base and no sign. -/
def integer? (text : Text) : Option Int :=
  let based (base : Nat) (isDigit : Char → Bool) (rest : Text) : Option Int :=
    (digits? isDigit rest).bind fun digits => bounded? (valueOf base digits)
  match text with
  | '0' :: 'x' :: rest => based 16 (fun digit => (Text.Quoted.hexDigit? digit).isSome) rest
  | '0' :: 'o' :: rest => based 8 (fun digit => '0' ≤ digit && digit ≤ '7') rest
  | '0' :: 'b' :: rest => based 2 (fun digit => digit == '0' || digit == '1') rest
  | _ =>
      let (negative, rest) := sign text
      (decimal? rest).bind fun digits =>
        let value : Int := valueOf 10 digits
        bounded? (if negative then -value else value)

/-- Digits times ten to an exponent are rounded to a finite double. -/
def fitsDouble (digits : Text) (exponent : Int) : Bool :=
  let significant := digits.dropWhile (· == '0')
  let magnitude := exponent + significant.length
  if significant.isEmpty || magnitude ≤ 300 then true
  else if 400 ≤ magnitude then false
  else
    let value := valueOf 10 significant
    let limit := Nat.pow 2 1024 - Nat.pow 2 970
    let power := Nat.pow 10 exponent.natAbs
    if exponent < 0 then value < limit * power else value * power < limit

/-- The part of a text before a character, and the part after it if the character is there. -/
def cutAt (isCut : Char → Bool) (text : Text) : Text × Option Text :=
  match text.dropWhile fun character => !isCut character with
  | [] => (text, none)
  | _ :: after => (text.takeWhile fun character => !isCut character, some after)

/-- A number with a fraction or an exponent that is no larger than a double can be. -/
def isFloat (text : Text) : Bool :=
  let (_, unsigned) := sign text
  if unsigned = "inf".toList || unsigned = "nan".toList then true
  else
    let (mantissa, exponentText?) := cutAt (fun character => character == 'e' || character == 'E') unsigned
    let (whole, fractionText?) := cutAt (· == '.') mantissa
    let exponent? : Option Int := match exponentText? with
      | none => some 0
      | some text =>
          let (negative, rest) := sign text
          (digits? Char.isDigit rest).map fun digits =>
            let value : Int := valueOf 10 digits
            if negative then -value else value
    let fraction? : Option Text := match fractionText? with
      | none => some []
      | some text => digits? Char.isDigit text
    if exponentText?.isNone && fractionText?.isNone then false
    else
      match decimal? whole, fraction?, exponent? with
      | some whole, some fraction, some exponent =>
          fitsDouble (whole ++ fraction) (exponent - fraction.length)
      | _, _, _ => false

/-- The value of some digits, all of which must be decimal. -/
def field? (digits : Text) : Option Nat :=
  if !digits.isEmpty && digits.all Char.isDigit then some (valueOf 10 digits) else none

/-- The number of days of a month. -/
def monthLength (year month : Nat) : Nat :=
  if month = 2 then if year % 4 = 0 && (year % 100 != 0 || year % 400 = 0) then 29 else 28
  else if [4, 6, 9, 11].contains month then 30
  else 31

/-- A date has ten characters and names a day of the calendar. -/
def isDate (text : Text) : Bool :=
  match text with
  | [y1, y2, y3, y4, '-', m1, m2, '-', d1, d2] =>
      match field? [y1, y2, y3, y4], field? [m1, m2], field? [d1, d2] with
      | some year, some month, some day =>
          1 ≤ month && month ≤ 12 && 1 ≤ day && day ≤ monthLength year month
      | _, _, _ => false
  | _ => false

/-- An hour and a minute with two digits each. -/
def isHourMinute (hour minute : Text) : Bool :=
  match field? hour, field? minute with
  | some hour, some minute => hour ≤ 23 && minute ≤ 59
  | _, _ => false

/-- A time has hours and minutes, and may have seconds and a fraction of a second. -/
def isTime (text : Text) : Bool :=
  match text with
  | h1 :: h2 :: ':' :: m1 :: m2 :: rest =>
      isHourMinute [h1, h2] [m1, m2] &&
        match rest with
        | [] => true
        | ':' :: s1 :: s2 :: rest =>
            (field? [s1, s2]).any (· ≤ 60) &&
              match rest with
              | [] => true
              | '.' :: fraction => (field? fraction).isSome
              | _ => false
        | _ => false
  | _ => false

/-- An offset is a letter or a signed time. -/
def isOffset (text : Text) : Bool :=
  match text with
  | ['Z'] | ['z'] => true
  | [mark, h1, h2, ':', m1, m2] => (mark == '+' || mark == '-') && isHourMinute [h1, h2] [m1, m2]
  | _ => false

/-- A time may have an offset behind it. -/
def isTimeWithOffset (text : Text) : Bool :=
  let time := text.takeWhile fun character =>
    character.isDigit || character == ':' || character == '.'
  isTime time && (text.length = time.length || isOffset (text.drop time.length))

/-- A moment is a date, a time, or both, and only both may have an offset. -/
def isMoment (text : Text) : Bool :=
  isDate text || isTime text ||
    isDate (text.take 10) &&
      match text.drop 10 with
      | mark :: time => (mark == 'T' || mark == 't' || mark == ' ') && isTimeWithOffset time
      | [] => false

/-- The value that a text without quotes writes. -/
def value? (text : Text) : Option Value :=
  if text = "true".toList then some (.boolean true)
  else if text = "false".toList then some (.boolean false)
  else
    match integer? text with
    | some value => some (.integer value)
    | none =>
        if isFloat text then some (.float text)
        else if isMoment text then some (.moment text)
        else none

/-- The characters of numbers, moments and truth values. -/
def isPart (character : Char) : Bool :=
  character.isAlphanum || ['+', '-', '_', '.', ':'].contains character

/-- The text of a value without quotes, and the text after it. One space may stand between a date
and a time. -/
def cut (text : Text) : Text × Text :=
  let first := text.takeWhile isPart
  let after := text.drop first.length
  match after with
  | ' ' :: digit :: rest =>
      if isDate first && digit.isDigit then
        let second := (digit :: rest).takeWhile isPart
        (first ++ ' ' :: second, (digit :: rest).drop second.length)
      else (first, after)
  | _ => (first, after)

end Stencil.Toml.Scalar
