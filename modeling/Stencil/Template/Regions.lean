/-
This file pairs the boundaries of a template.
-/
import Stencil.Template.Basic

namespace Stencil

/-- A region has the indices of its two boundaries and the number of regions around it. -/
structure RegionSpan where
  opening : Nat
  closing : Nat
  depth : Nat
  deriving Repr, DecidableEq

/-- The regions that close among some boundaries, in the order in which they close. The regions
that are open are given by the indices of their opening boundaries, innermost first. -/
def RegionSpan.pair? (index : Nat) (opened : List Nat) : List Boundary → Option (List RegionSpan)
  | [] => if opened.isEmpty then some [] else none
  | .opening _ _ _ :: rest => pair? (index + 1) (index :: opened) rest
  | .closing _ _ :: rest =>
      match opened with
      | [] => none
      | innermost :: outer =>
          (pair? (index + 1) outer rest).map (⟨innermost, index, outer.length⟩ :: ·)

/-- The regions of a template in the order in which they open. There are none if its boundaries
are not balanced. -/
def Template.regions? (template : Template) : Option (List RegionSpan) :=
  (RegionSpan.pair? 0 [] template.boundaries.toList).map fun spans =>
    spans.mergeSort fun first second => first.opening ≤ second.opening

end Stencil
