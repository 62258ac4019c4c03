/-
This file says what template placed lines make.
-/
import Stencil.Proofs.Assembly.Growth
import Stencil.Proofs.Outline.Placed

namespace Stencil

/-- A template is made of some placed lines over a base. -/
structure Template.Made (source : Text) (lines : List Placed) (base : Nat) (template : Template) :
    Prop where
  source : template.source = source
  pieces : template.pieces.toList = lines.flatMap (Placed.pieces base)
  marks : template.boundaries.toList.map Boundary.mark = lines.flatMap (Placed.marks base)
  sound : template.Sound

/-- A body that has grown from nothing by some lines finishes as a template that is made of them. -/
theorem Assembly.Body.Grows.made {name : Text} {base : Nat} {grown : Assembly.Body} {lines : List Placed}
    (growth : Assembly.Body.Grows ⟨name, base, #[], #[], 0⟩ grown (lines.flatMap (Placed.pieces base))
      (lines.flatMap (Placed.marks base))) (sound : grown.Sound []) (source : Text) :
    (grown.template source).Made source lines base where
  source := rfl
  pieces := growth.pieces
  marks := growth.marks
  sound := sound.template source

end Stencil
