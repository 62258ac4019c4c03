/-
This file counts the sites among some pieces and reads the sites that a boundary lists.
-/
import Stencil.Template.Basic

namespace Stencil

/-- The last value of a list stands behind the others. -/
theorem getElem?_concat_eq_some {Value : Type} {values : List Value} {last value : Value} {index : Nat} :
    (values ++ [last])[index]? = some value ↔
      values[index]? = some value ∨ index = values.length ∧ last = value := by
  rw [List.getElem?_append]
  split
  · next inside =>
      refine ⟨.inl, fun found => found.resolve_right ?_⟩
      rintro ⟨rfl, _⟩
      exact Nat.lt_irrefl _ inside
  · next outside =>
      rw [List.getElem?_singleton, List.getElem?_eq_none (Nat.le_of_not_lt outside)]
      split
      · next zero =>
          rw [Option.some.injEq]
          exact ⟨fun same => .inr ⟨by omega, same⟩, fun found => (found.resolve_left nofun).2⟩
      · next positive =>
          refine ⟨nofun, fun found => ?_⟩
          rcases found with absurdly | ⟨rfl, _⟩
          · cases absurdly
          · exact absurd (Nat.sub_self _) positive

namespace Piece

/-- The piece with an index is a site. -/
def IsSiteAt (pieces : List Piece) (index : Nat) : Prop :=
  ∃ piece, pieces[index]? = some piece ∧ piece.isSite = true

/-- The number of sites before an index. -/
def sitesBefore (pieces : List Piece) (index : Nat) : Nat := (pieces.take index).countP isSite

theorem IsSiteAt.lt {pieces : List Piece} {index : Nat} (site : IsSiteAt pieces index) :
    index < pieces.length := by
  obtain ⟨piece, found, _⟩ := site
  exact (List.getElem?_eq_some_iff.1 found).1

theorem isSiteAt_append_singleton {pieces : List Piece} {piece : Piece} {index : Nat} :
    IsSiteAt (pieces ++ [piece]) index ↔
      IsSiteAt pieces index ∨ index = pieces.length ∧ piece.isSite = true := by
  simp only [IsSiteAt, getElem?_concat_eq_some]
  constructor
  · rintro ⟨found, located | ⟨last, rfl⟩, site⟩
    · exact .inl ⟨found, located, site⟩
    · exact .inr ⟨last, site⟩
  · rintro (⟨found, located, site⟩ | ⟨last, site⟩)
    · exact ⟨found, .inl located, site⟩
    · exact ⟨piece, .inr ⟨last, rfl⟩, site⟩

theorem sitesBefore_append {pieces : List Piece} {index : Nat} (inside : index ≤ pieces.length)
    (more : List Piece) : sitesBefore (pieces ++ more) index = sitesBefore pieces index := by
  rw [sitesBefore, List.take_append_of_le_length inside, sitesBefore]

theorem sitesBefore_length (pieces : List Piece) :
    sitesBefore pieces pieces.length = pieces.countP isSite := by
  rw [sitesBefore, List.take_length]

theorem sitesBefore_le (pieces : List Piece) {first second : Nat} (ordered : first ≤ second) :
    sitesBefore pieces first ≤ sitesBefore pieces second := by
  rw [sitesBefore, sitesBefore, ← Nat.min_eq_left ordered, ← List.take_take]
  exact (List.take_sublist _ _).countP_le

/-- Behind a site the number is larger. -/
theorem IsSiteAt.sitesBefore_lt {pieces : List Piece} {first second : Nat}
    (site : IsSiteAt pieces first) (ordered : first < second) :
    sitesBefore pieces first < sitesBefore pieces second := by
  obtain ⟨piece, found, isSite⟩ := site
  refine Nat.lt_of_lt_of_le ?_ (sitesBefore_le pieces ordered)
  rw [sitesBefore, sitesBefore, List.take_add_one, found, List.countP_append]
  simp [isSite]

end Piece

namespace Boundary

/-- The sites that a boundary lists. Only the opening boundary of a replacement lists any. -/
def sites : Boundary → List Site
  | .opening _ _ (.replace _ _ sites) => sites.toList
  | .opening _ _ (.foreach _ _) | .opening _ _ (.insert _ _) | .closing _ _ => []

/-- The sites that the boundary with an index lists. -/
def sitesAt (boundaries : List Boundary) (index : Nat) : List Site :=
  (boundaries[index]?.map sites).getD []

theorem sitesAt_eq {boundaries : List Boundary} {index : Nat} {boundary : Boundary}
    (found : boundaries[index]? = some boundary) : sitesAt boundaries index = boundary.sites := by
  rw [sitesAt, found]
  rfl

/-- A boundary that lists no sites adds none. -/
theorem sitesAt_append_singleton {boundary : Boundary} (none : boundary.sites = [])
    (boundaries : List Boundary) (index : Nat) :
    sitesAt (boundaries ++ [boundary]) index = sitesAt boundaries index := by
  rw [sitesAt, sitesAt, List.getElem?_append]
  split
  · rfl
  · next outside =>
      rw [List.getElem?_eq_none (Nat.le_of_not_lt outside)]
      cases index - boundaries.length with
      | zero => simp [none]
      | succ => rfl

end Boundary

end Stencil
