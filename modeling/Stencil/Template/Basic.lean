/-
This file holds loaded templates.
-/
import Stencil.Directive.Basic
import Stencil.Text.Basic

namespace Stencil

/-- A piece of template text lies in one line. The first piece of an output line has the
indentation of the line, and a site of a replacement has the spans of the groups that matched. -/
structure Piece where
  start : Nat
  text : Text
  indentation? : Option Nat := none
  startsNewLine : Bool := false
  groups? : Option (List (Option Span)) := none
  deriving Repr, DecidableEq

namespace Piece

/-- The byte offset after the piece. -/
def stop (piece : Piece) : Nat := piece.start + Text.byteSize piece.text

/-- The bytes that the piece covers. -/
def span (piece : Piece) : Span := ⟨piece.start, piece.stop⟩

/-- The piece is the site of a replacement. -/
def isSite (piece : Piece) : Bool := piece.groups?.isSome

end Piece

/-- A site has the index of its piece and its number among the sites of the template. -/
structure Site where
  piece : Nat
  number : Nat
  deriving Repr, DecidableEq

/-- What happens to the pieces of a region. -/
inductive Region where
  /-- The region is repeated for each item of a collection. -/
  | foreach (item collection : Text)
  /-- The sites of the region are replaced by the value of a field. -/
  | replace (field : Text) (flags : Flags) (sites : Array Site)
  /-- The region is replaced by the value of a field, at an indentation. -/
  | insert (indentation : Nat) (field : Text)
  deriving Repr, DecidableEq

/-- A boundary opens or closes a region. It stands before the piece and the site that come next. -/
inductive Boundary where
  | opening (piece site : Nat) (region : Region)
  | closing (piece site : Nat)
  deriving Repr, DecidableEq

namespace Boundary

/-- The index of the piece that comes next. -/
def piece : Boundary → Nat
  | .opening piece _ _ => piece
  | .closing piece _ => piece

/-- The number of the site that comes next. -/
def site : Boundary → Nat
  | .opening _ site _ => site
  | .closing _ site => site

end Boundary

/-- A template is a list of pieces of a source and the boundaries of its regions. -/
structure Template where
  source : Text
  boundaries : Array Boundary
  pieces : Array Piece
  siteCount : Nat
  deriving Repr, DecidableEq

end Stencil
