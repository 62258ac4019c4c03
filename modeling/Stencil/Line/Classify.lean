/-
This file reads a text once, character by character, and classifies its lines.
-/
import Stencil.Line.Basic
import Stencil.Markers
import Stencil.Token.Scan

namespace Stencil.Line

/-- A draft is a line whose end is not reached. Its characters are kept in reverse. -/
structure Draft where
  number : Nat
  start : Nat
  reversed : Text := []
  size : Nat := 0
  indentation : Nat := 0
  inContent : Bool := false
  deriving Repr, DecidableEq

namespace Draft

/-- The draft with one more character. Spaces before the first other character indent the line. -/
def push (draft : Draft) (character : Char) : Draft where
  number := draft.number
  start := draft.start
  reversed := character :: draft.reversed
  size := draft.size + character.utf8Size
  indentation :=
    if character = ' ' ∧ draft.inContent = false then draft.indentation + 1 else draft.indentation
  inContent := draft.inContent || character != ' '

/-- The draft of the line after the line feed. -/
def next (draft : Draft) : Draft where
  number := draft.number + 1
  start := draft.start + draft.size + 1

/-- The text of the line. One carriage return at its end belongs to the terminator. -/
def text (draft : Draft) : Text :=
  match draft.reversed with
  | '\r' :: earlier => earlier.reverse
  | reversed => reversed.reverse

/-- The kind of a line that is not blank. -/
def kind (recogniser : Recogniser) (draft : Draft) : Except Error Kind :=
  match recogniser.mark? draft.text with
  | none => .ok .regular
  | some .closing => .ok .closing
  | some (.opening none) => .ok .opening
  | some (.opening (some directives)) =>
      let start := draft.start + directives.column
      (Token.scan draft.number directives.column start directives.text).map (.directives start)

/-- The line that the draft has become. -/
def finish (recogniser : Recogniser) (draft : Draft) : Except Error Line :=
  if Text.allBlank draft.text then .ok ⟨draft.number, draft.start, draft.text, none, .empty⟩
  else
    (draft.kind recogniser).map fun kind =>
      ⟨draft.number, draft.start, draft.text, some draft.indentation, kind⟩

end Draft

/-- The lines of a text whose first line is in progress. A tab is refused where it stands, and a
last line of fewer than two characters is dropped. -/
def classifyFrom (recogniser : Recogniser) (draft : Draft) : Text → Except Error (List Line)
  | [] =>
      if draft.reversed.length < 2 then .ok []
      else (draft.finish recogniser).map fun line => [line]
  | character :: rest =>
      if character = '\n' then
        match draft.finish recogniser with
        | .error error => .error error
        | .ok line => (classifyFrom recogniser draft.next rest).map (line :: ·)
      else if character = '\t' then .error (.lexical ⟨draft.number, draft.size⟩ .tab)
      else classifyFrom recogniser (draft.push character) rest

end Stencil.Line

namespace Stencil

/-- The lines of a text that starts at a byte offset, by a recogniser. -/
def Recogniser.classify (recogniser : Recogniser) (start : Nat) (text : Text) :
    Except Error (List Line) :=
  Line.classifyFrom recogniser ⟨0, start, [], 0, 0, false⟩ text

/-- The lines of a text that starts at a byte offset. -/
def Line.classify (markers : Markers) (start : Nat) (text : Text) : Except Error (List Line) :=
  markers.recogniser.classify start text

end Stencil
