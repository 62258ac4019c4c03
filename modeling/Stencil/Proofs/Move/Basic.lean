/-
This file moves a text down by some lines and right by some bytes, and with it the places, tokens and lines
that are read from it.
-/
import Stencil.Line.Basic
import Stencil.Proofs.Outcome
import Stencil.Template.Basic

namespace Stencil

/-- A move takes a text down by some lines and right by some bytes. -/
structure Move where
  down : Nat
  right : Nat

namespace Move

variable (move : Move)

def place (place : Place) : Place := ⟨place.line + move.down, place.column⟩

/-- An error moves with its place. -/
def error : Error → Error
  | .lexical place fault => .lexical (move.place place) fault
  | .grammar place fault => .grammar (move.place place) fault
  | .structural place fault => .structural (move.place place) fault
  | .range start stop size => .range start stop size
  | .config fault => .config fault
  | .notUtf8 => .notUtf8

def stop : Stop → Stop
  | .refused error => .refused (move.error error)
  | .broken breach => .broken breach

def token (token : Token) : Token :=
  { token with start := token.start + move.right, line := token.line + move.down }

def kind : Line.Kind → Line.Kind
  | .directives start tokens => .directives (start + move.right) (tokens.map move.token)
  | .empty => .empty
  | .opening => .opening
  | .closing => .closing
  | .regular => .regular

def line (line : Line) : Line :=
  { line with
    number := line.number + move.down
    start := line.start + move.right
    kind := move.kind line.kind }

def directive (directive : Directive) : Directive :=
  { directive with line := directive.line + move.down }

/-- A piece moves with the spans of its groups. -/
def piece (piece : Piece) : Piece :=
  { piece with
    start := piece.start + move.right
    groups? := piece.groups?.map (List.map (Option.map fun span => span.shift move.right)) }

/-- A template moves into another source. -/
def template (source : Text) (template : Template) : Template :=
  { template with source, pieces := template.pieces.map move.piece }

/-- A move to the right leaves all places where they are. -/
theorem stop_right (right : Nat) (stop : Stop) : Move.stop ⟨0, right⟩ stop = stop := by
  cases stop with
  | broken breach => rfl
  | refused error => cases error <;> rfl

end Move

end Stencil
