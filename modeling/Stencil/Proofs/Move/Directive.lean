/-
This file shows that the directives of moved tokens are the moved directives.
-/
import Stencil.Proofs.Directive.Relocated
import Stencil.Proofs.Move.Basic

namespace Stencil.Move

variable (move : Move)

/-- A move relocates tokens. -/
def relocation : Directive.Relocation where
  token := move.token
  stop := move.stop
  kind _ := rfl
  text _ := rfl
  refused _ _ := rfl
  broken _ := rfl

/-- The directives of a moved token line are the moved directives. -/
theorem parse_moved (line lineStart : Nat) (tokens : List Token) :
    Directive.parse (line + move.down) (lineStart + move.right) (tokens.map move.token) =
      bimap move.stop (List.map move.directive) (Directive.parse line lineStart tokens) := by
  refine move.relocation.parse_relocated fun token _ => ⟨Nat.add_lt_add_iff_right, fun instruction _ => ?_⟩
  have column : token.start + move.right - (lineStart + move.right) = token.start - lineStart :=
    Nat.add_sub_add_right _ _ _
  exact congrArg (Directive.mk instruction (line + move.down)) column.symm

end Stencil.Move
