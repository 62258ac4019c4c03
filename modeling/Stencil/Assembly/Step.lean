/-
This file assembles templates from classified lines.
-/
import Stencil.Assembly.State
import Stencil.Directive.Parse

namespace Stencil.Assembly

/-- The last of some pieces ends its line. -/
def endLine : List Piece → List Piece
  | [] => []
  | [piece] => [{ piece with startsNewLine := true }]
  | piece :: rest => piece :: endLine rest

/-- The first of some pieces starts its line at an indentation. -/
def startLine (indentation : Nat) : List Piece → List Piece
  | [] => []
  | piece :: rest => { piece with indentation? := some indentation } :: rest

namespace Body

/-- The pieces of a line are added in order, and each site is recorded. -/
def addLine (body : Body) : List (Piece × Option Nat) → Except Stop Body
  | [] => .ok body
  | (piece, boundary?) :: rest => do
      let body ← body.addPiece piece
      match boundary? with
      | none => body.addLine rest
      | some boundary => (← body.addSite boundary).addLine rest

end Body

namespace State

/-- A blank line is a line break in the body. The last line of the text leaves none. -/
def addBlank (state : State) (line : Line) (isLast : Bool) : Except Stop State :=
  if isLast then .ok state
  else
    match state.body? with
    | none => .ok state
    | some body => return state.withBody (← body.addPiece ⟨line.start, [], none, true, none⟩)

/-- A line of text is cut into pieces. Outside templates and inside insertions it is dropped. -/
def addText (state : State) (line : Line) (isLast : Bool) : Except Stop State :=
  match state.body? with
  | none => .ok state
  | some body =>
      if state.insideInsert then .ok state
      else do
        let indentation ← state.relativeIndentation line
        let segments := Segment.ofLine state.replacements line.text.toArray line.indentation
        let pieces := startLine indentation (segments.map (Segment.piece line))
        let pieces := if isLast then pieces else endLine pieces
        return state.withBody (← body.addLine (pieces.zip (segments.map Segment.boundary?)))

/-- A structural rule is broken at a directive. -/
def refuse {Result : Type} (directive : Directive) (fault : StructureFault) :
    Except Stop Result :=
  .error (.refused (.structural ⟨directive.line, directive.column⟩ fault))

/-- At the top level of a text that defines templates, a definition is expected. -/
def expectsDefine (state : State) : Bool := state.mode = .multiple && state.depth = 0

/-- A directive opens its region. -/
def enter (line : Line) (state : State) (directive : Directive) : Except Stop State :=
  if state.expectsDefine && directive.instruction.keyword != .define then
    refuse directive (.expectedDefine directive.instruction.keyword)
  else
    match directive.instruction with
    | .define name =>
        if !state.expectsDefine then refuse directive .misplacedDefine
        else if name.isEmpty then refuse directive .emptyName
        else if state.finished.contains name then refuse directive (.duplicateName name)
        else .ok (state.withBody ⟨name, line.indentation, #[], #[], 0⟩)
    | .foreach item collection =>
        if state.insideInsert then refuse directive .insideInsert
        else return state.withBody ((← state.body).openRegion (.foreach item collection))
    | .replace text field flags =>
        if state.insideInsert then refuse directive .insideInsert
        else
          match Pattern.compile? text with
          | none => refuse directive (.badPattern text)
          | some pattern => do
              let body ← state.body
              let replacements := state.replacements ++ [⟨pattern, body.boundaries.size⟩]
              return { state.withBody (body.openRegion (.replace field flags #[])) with replacements }
    | .insert field =>
        if state.insideInsert then refuse directive .insideInsert
        else do
          let indentation ← state.relativeIndentation line
          let body ← state.body
          return { state.withBody (body.openRegion (.insert indentation field)) with
            insideInsert := true }

/-- The directives of a line open their regions in order. -/
def enterAll (line : Line) (state : State) : List Directive → Except Stop State
  | [] => .ok state
  | directive :: rest => do
      let state ← state.enter line directive
      enterAll line { state with depth := state.depth + 1 } rest

/-- A region of the body closes. -/
def closeRegion (state : State) : Except Stop State :=
  return state.withBody (← state.body).closeRegion

/-- The region of a directive closes. A definition finishes its template. -/
def exit (source : Text) (state : State) (directive : Directive) : Except Stop State :=
  match directive.instruction with
  | .define name =>
      if !state.replacements.isEmpty then .error (.broken .patternLeftActive)
      else do
        let body ← state.body
        return { state with
          body? := none
          finished := state.finished.insert name (body.template source) }
  | .replace .. =>
      if state.replacements.isEmpty then .error (.broken .noActivePattern)
      else { state with replacements := state.replacements.dropLast }.closeRegion
  | .foreach .. => state.closeRegion
  | .insert _ => { state with insideInsert := false }.closeRegion

/-- The regions of some directives close, the last of them first. -/
def exitAll (source : Text) (state : State) : List Directive → Except Stop State
  | [] => .ok state
  | directive :: rest =>
      if state.depth = 0 then .error (.broken .depthBelowZero)
      else do
        let state ← { state with depth := state.depth - 1 }.exit source directive
        exitAll source state rest

/-- Inside a body no line may stand left of its base. -/
def checkIndentation (state : State) (line : Line) : Except Stop Unit :=
  if state.body?.isSome then do
    let _ ← state.relativeIndentation line
    return ()
  else .ok ()

/-- The state after one line. -/
def step (source : Text) (state : State) (line : Line) (isLast : Bool) : Except Stop State :=
  match line.kind with
  | .empty => state.addBlank line isLast
  | .regular => state.addText line isLast
  | .opening => (state.pushFrame line []).addText line isLast
  | .directives _ tokens => do
      let directives ← Directive.parse line.number line.start tokens
      state.checkIndentation line
      return (← state.enterAll line directives).pushFrame line directives
  | .closing =>
      match state.frames with
      | [] => .error (.refused (.structural ⟨line.number, line.indentation⟩ .strayEnd))
      | frame :: frames =>
          let state := { state with frames }
          if frame.directives.isEmpty then state.addText line isLast
          else do
            state.checkIndentation line
            state.exitAll source frame.directives.reverse

/-- The state after some lines, the last of which is the last of the text. -/
def walk (source : Text) (state : State) : List Line → Except Stop State
  | [] => .ok state
  | line :: rest => do
      let state ← state.step source line rest.isEmpty
      walk source state rest

/-- At the end of the text every region is closed. -/
def finish (state : State) : Except Stop State :=
  match state.frames with
  | [] => .ok state
  | frame :: _ => .error (.refused (.structural ⟨frame.line, frame.column⟩ .neverClosed))

end State

end Stencil.Assembly
