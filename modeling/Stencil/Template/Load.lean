/-
This file loads templates from a range of a source.
-/
import Stencil.Assembly.Step
import Stencil.Line.Classify

namespace Stencil

namespace Recogniser

/-- The lines of a range of a source. The range must lie in the source and on boundaries of
characters. -/
def lines (recogniser : Recogniser) (source : Text) (start stop : Nat) : Except Error (List Line) :=
  match Text.slice? source start stop with
  | none => .error (.range start stop (Text.byteSize source))
  | some text => recogniser.classify start text

/-- The state at the end of a range of a source, from a state on. -/
def finalState (recogniser : Recogniser) (state : Assembly.State) (source : Text) (start stop : Nat) :
    Except Stop Assembly.State := do
  let lines ← (recogniser.lines source start stop).mapError .refused
  (← state.walk source lines).finish

/-- A range of a source is one template. -/
def template (recogniser : Recogniser) (source : Text) (start stop : Nat) : Except Stop Template := do
  let state ← recogniser.finalState .single source start stop
  return (← state.body).template source

/-- A range of a source defines templates. -/
def templates (recogniser : Recogniser) (source : Text) (start stop : Nat) :
    Except Stop TemplateSet := do
  return (← recogniser.finalState .multiple source start stop).finished

end Recogniser

/-- The lines of a range of a source with region lines that some markers tell. -/
def Line.ofRange (markers : Markers) (source : Text) (start stop : Nat) : Except Error (List Line) :=
  markers.recogniser.lines source start stop

/-- A range of a source with some markers is one template. -/
def Template.load (markers : Markers) (source : Text) (start stop : Nat) : Except Stop Template :=
  markers.recogniser.template source start stop

/-- A range of a source with some markers defines templates. -/
def TemplateSet.load (markers : Markers) (source : Text) (start stop : Nat) :
    Except Stop TemplateSet :=
  markers.recogniser.templates source start stop

end Stencil
