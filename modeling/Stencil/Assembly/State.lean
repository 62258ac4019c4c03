/-
This file holds templates under assembly and what is remembered between two lines.
-/
import Stencil.Error
import Stencil.Template.Regions
import Stencil.Template.Segment
import Stencil.Template.Set

namespace Stencil.Assembly

/-- A text is loaded as one template, or as the templates that it defines. -/
inductive Mode where
  | single
  | multiple
  deriving Repr, DecidableEq

/-- A body is the part of a template that is assembled. The indentation of its lines counts from
its base. -/
structure Body where
  name : Text
  base : Nat
  boundaries : Array Boundary := #[]
  pieces : Array Piece := #[]
  siteCount : Nat := 0
  deriving Repr, DecidableEq

namespace Body

/-- A region opens before the next piece. -/
def openRegion (body : Body) (region : Region) : Body :=
  { body with boundaries := body.boundaries.push (.opening body.pieces.size body.siteCount region) }

/-- A region closes before the next piece. -/
def closeRegion (body : Body) : Body :=
  { body with boundaries := body.boundaries.push (.closing body.pieces.size body.siteCount) }

/-- One more piece, which has no line feed. -/
def addPiece (body : Body) (piece : Piece) : Except Stop Body :=
  if piece.text.contains '\n' then .error (.broken .lineFeedInRange)
  else .ok { body with pieces := body.pieces.push piece }

/-- The last piece is a site of the replacement with an opening boundary. -/
def addSite (body : Body) (boundary : Nat) : Except Stop Body :=
  if body.pieces.isEmpty then .error (.broken .noRange)
  else
    match body.boundaries[boundary]? with
    | some (.opening piece site (.replace field flags sites)) =>
        let sites := sites.push ⟨body.pieces.size - 1, body.siteCount⟩
        .ok { body with
          boundaries :=
            body.boundaries.setIfInBounds boundary (.opening piece site (.replace field flags sites))
          siteCount := body.siteCount + 1 }
    | _ => .error (.broken .notReplaceMarker)

/-- The finished template. -/
def template (body : Body) (source : Text) : Template :=
  ⟨source, body.boundaries, body.pieces, body.siteCount⟩

end Body

/-- A frame is a region start line and the directives that it opened, in order. -/
structure Frame where
  line : Nat
  column : Nat
  directives : List Directive
  deriving Repr, DecidableEq

/-- The state between two lines. The frames are kept innermost first and the replacements
outermost first. The depth counts the directives that are open. -/
structure State where
  mode : Mode
  body? : Option Body := none
  finished : TemplateSet := .empty
  frames : List Frame := []
  replacements : List Replacement := []
  depth : Nat := 0
  insideInsert : Bool := false

namespace State

/-- A text that is one template has a body from the start. -/
def single : State where
  mode := .single
  body? := some ⟨[], 0, #[], #[], 0⟩

/-- A text that defines templates starts without a body. -/
def multiple : State where
  mode := .multiple

/-- The body, which must be there. -/
def body (state : State) : Except Stop Body :=
  match state.body? with
  | some body => .ok body
  | none => .error (.broken .noBody)

/-- The state with another body. -/
def withBody (state : State) (body : Body) : State := { state with body? := some body }

/-- One more frame, for a region start line. -/
def pushFrame (state : State) (line : Line) (directives : List Directive) : State :=
  { state with frames := ⟨line.number, line.indentation, directives⟩ :: state.frames }

/-- The indentation of a line over the base of the body. -/
def relativeIndentation (state : State) (line : Line) : Except Stop Nat :=
  let base := (state.body?.map Body.base).getD 0
  if base ≤ line.indentation then .ok (line.indentation - base)
  else
    .error (.refused (.structural ⟨line.number, line.indentation⟩
      (.underIndented line.indentation base)))

end State

end Stencil.Assembly
