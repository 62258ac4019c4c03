/-
This file shifts a line to the right by some bytes and indents it by some columns, and with it the places,
tokens and directives that are read from it.
-/
import Stencil.Assembly.State
import Stencil.Proofs.Directive.Relocated
import Stencil.Proofs.Move.Basic

namespace Stencil

/-- A shift takes the start of a line to the right by some bytes, and puts some spaces before its text. -/
structure Shift where
  right : Nat
  columns : Nat

/-- The place with some more columns. -/
def Place.indent (columns : Nat) (place : Place) : Place := ⟨place.line, place.column + columns⟩

/-- Only the fault of a line that stands too far left speaks of columns. -/
def StructureFault.indent (columns : Nat) : StructureFault → StructureFault
  | .underIndented indentation base => .underIndented (indentation + columns) (base + columns)
  | fault => fault

/-- The error for a text with some more columns. A tab on a blank line, which gets no columns, stands where it
stood. -/
def Error.indent (columns : Nat) (blank : Nat → Bool) : Error → Error
  | .lexical place .tab =>
      .lexical (if blank place.line then place else place.indent columns) .tab
  | .lexical place (.unexpected character) => .lexical (place.indent columns) (.unexpected character)
  | .grammar place fault => .grammar (place.indent columns) fault
  | .structural place fault => .structural (place.indent columns) (fault.indent columns)
  | .range start stop size => .range start stop size
  | .config fault => .config fault
  | .notUtf8 => .notUtf8

def Stop.indent (columns : Nat) (blank : Nat → Bool) : Stop → Stop
  | .refused error => .refused (error.indent columns blank)
  | .broken breach => .broken breach

/-- No columns change no stop. -/
theorem Stop.indent_zero (blank : Nat → Bool) (stop : Stop) : stop.indent 0 blank = stop := by
  have still (place : Place) : place.indent 0 = place := rfl
  cases stop with
  | broken breach => rfl
  | refused error =>
      cases error with
      | structural place fault => cases fault <;> rfl
      | lexical place fault =>
          cases fault with
          | tab => rw [indent, Error.indent, still, ite_self]
          | unexpected => rfl
      | grammar | range | config | notUtf8 => rfl

def Directive.indent (columns : Nat) (directive : Directive) : Directive :=
  { directive with column := directive.column + columns }

def Assembly.Frame.indent (columns : Nat) (frame : Frame) : Frame :=
  { frame with
    column := frame.column + columns
    directives := frame.directives.map (Directive.indent columns) }

namespace Shift

variable (shift : Shift)

def token (token : Token) : Token :=
  { token with start := token.start + (shift.right + shift.columns), column := token.column + shift.columns }

def kind : Line.Kind → Line.Kind
  | .directives start tokens =>
      .directives (start + (shift.right + shift.columns)) (tokens.map shift.token)
  | .empty => .empty
  | .opening => .opening
  | .closing => .closing
  | .regular => .regular

def line (line : Line) : Line where
  number := line.number
  start := line.start + shift.right
  text := List.replicate shift.columns ' ' ++ line.text
  indentation? := line.indentation?.map (· + shift.columns)
  kind := shift.kind line.kind

/-- A shift by no columns is a move to the right. -/
theorem line_still (right : Nat) (line : Line) : Shift.line ⟨right, 0⟩ line = Move.line ⟨0, right⟩ line := by
  have kind : Shift.kind ⟨right, 0⟩ line.kind = Move.kind ⟨0, right⟩ line.kind := by
    cases line.kind <;> rfl
  have indentation : line.indentation?.map (· + 0) = line.indentation? := Option.map_id'
  rw [Shift.line, kind, indentation]
  rfl

/-- A shift relocates tokens. -/
def relocation (blank : Nat → Bool) : Directive.Relocation where
  token := shift.token
  stop := Stop.indent shift.columns blank
  kind _ := rfl
  text _ := rfl
  refused _ _ := rfl
  broken _ := rfl

/-- The directives of a shifted token line are the indented directives. -/
theorem parse_shifted (blank : Nat → Bool) (number lineStart : Nat) {tokens : List Token}
    (behind : ∀ token ∈ tokens, lineStart ≤ token.start) :
    Directive.parse number (lineStart + shift.right) (tokens.map shift.token) =
      bimap (Stop.indent shift.columns blank) (List.map (Directive.indent shift.columns))
        (Directive.parse number lineStart tokens) := by
  refine (shift.relocation blank).parse_relocated fun token member => ?_
  have start := behind token member
  have placed : ((shift.relocation blank).token token).start =
      token.start + (shift.right + shift.columns) := rfl
  refine ⟨?_, fun instruction _ => ?_⟩
  · rw [placed]
    omega
  · have column : token.start - lineStart + shift.columns =
        ((shift.relocation blank).token token).start - (lineStart + shift.right) := by
      rw [placed]
      omega
    exact congrArg (Directive.mk instruction number) column

/-- The tokens of a shifted directive text are the shifted tokens. -/
theorem scan_shifted (blank : Nat → Bool) (number column start : Nat) (text : Text) :
    Token.scan number (column + shift.columns) (start + (shift.right + shift.columns)) text =
      bimap (Error.indent shift.columns blank) (List.map shift.token)
        (Token.scan number column start text) :=
  @Token.scan_displaced number 0 shift.columns (shift.right + shift.columns)
    (Error.indent shift.columns blank) shift.token (fun _ _ => rfl) (fun _ _ _ _ => rfl) column start text

end Shift

end Stencil
