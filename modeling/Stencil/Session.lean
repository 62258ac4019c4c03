/-
This file holds sessions, which keep the templates that were loaded last.
-/
import Stencil.Template.Load

namespace Stencil

/-- A session loads with the same markers throughout. It keeps a set of templates and a current
template. -/
structure Session where
  markers : Markers := .standard
  set : TemplateSet := .empty
  current? : Option Template := none

namespace Session

/-- The template of a range becomes current. -/
def load (session : Session) (source : Text) (start stop : Nat) : Except Stop Session :=
  return { session with current? := some (← Template.load session.markers source start stop) }

/-- The templates that a range defines become the set. -/
def loadAll (session : Session) (source : Text) (start stop : Nat) : Except Stop Session :=
  return { session with set := ← TemplateSet.load session.markers source start stop }

/-- A template of the set becomes current. -/
def select? (session : Session) (name : Text) : Option Session :=
  (session.set.find? name).map fun template => { session with current? := some template }

/-- The set becomes empty. -/
def clear (session : Session) : Session := { session with set := .empty }

/-- A piece of the current template. -/
def piece? (session : Session) (index : Nat) : Option Piece :=
  session.current?.bind fun template => template.pieces[index]?

/-- The text of a piece. -/
def text? (session : Session) (index : Nat) : Option Text := (session.piece? index).map Piece.text

/-- The span of a group of a piece, if the piece is a site and the group took part in its match. -/
def group? (session : Session) (index group : Nat) : Option Span :=
  (session.piece? index).bind fun piece =>
    piece.groups?.bind fun groups => (groups[group]?).join

/-- The current template equals the one with a name. There is no answer if the name is not in the
set. -/
def same? (session : Session) (name : Text) : Option Bool :=
  (session.set.find? name).map fun template => session.current? = some template

end Session

end Stencil
