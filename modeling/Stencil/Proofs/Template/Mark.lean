/-
This file holds marks, which are boundaries without indices, and the pairing of the marks read so far.
-/
import Stencil.Proofs.Template.Sites
import Stencil.Template.Regions

namespace Stencil

/-- The region without the sites that were recorded for it. -/
def Region.blank : Region → Region
  | .replace field flags _ => .replace field flags #[]
  | .foreach item collection => .foreach item collection
  | .insert indentation field => .insert indentation field

/-- A mark is a boundary without its indices and sites. -/
inductive Mark where
  | opening (region : Region)
  | closing
  deriving Repr, DecidableEq

/-- The mark of a boundary. -/
def Boundary.mark : Boundary → Mark
  | .opening _ _ region => .opening region.blank
  | .closing _ _ => .closing

namespace Mark

/-- The pairing of some marks: the indices of the openings that are still open, innermost first, and the
spans that have closed, in the order in which they closed. -/
inductive Paired : List Mark → List Nat → List RegionSpan → Prop where
  | nil : Paired [] [] []
  | opening {marks : List Mark} {opened : List Nat} {spans : List RegionSpan} (region : Region)
      (paired : Paired marks opened spans) :
      Paired (marks ++ [.opening region]) (marks.length :: opened) spans
  | closing {marks : List Mark} {innermost : Nat} {outer : List Nat} {spans : List RegionSpan}
      (paired : Paired marks (innermost :: outer) spans) :
      Paired (marks ++ [.closing]) outer (spans ++ [⟨innermost, marks.length, outer.length⟩])

/-- Every opening that is still open was read, once. -/
theorem Paired.opened {marks : List Mark} {opened : List Nat} {spans : List RegionSpan}
    (paired : Paired marks opened spans) :
    opened.Nodup ∧ ∀ index ∈ opened, index < marks.length := by
  induction paired with
  | nil => simp
  | opening region paired ih =>
      obtain ⟨distinct, inside⟩ := ih
      refine ⟨List.nodup_cons.2 ⟨fun member => ?_, distinct⟩, fun index member => ?_⟩
      · exact absurd (inside _ member) (Nat.lt_irrefl _)
      · rw [List.length_append, List.length_singleton]
        rcases List.mem_cons.1 member with rfl | older
        · exact Nat.lt_succ_self _
        · exact Nat.lt_succ_of_lt (inside index older)
  | closing paired ih =>
      obtain ⟨distinct, inside⟩ := ih
      refine ⟨(List.nodup_cons.1 distinct).2, fun index member => ?_⟩
      rw [List.length_append, List.length_singleton]
      exact Nat.lt_succ_of_lt (inside index (.tail _ member))

/-- A span that has closed was read, and its opening is open no more. -/
theorem Paired.closed {marks : List Mark} {opened : List Nat} {spans : List RegionSpan}
    (paired : Paired marks opened spans) {span : RegionSpan} (member : span ∈ spans) :
    span.opening ∉ opened ∧ span.opening < span.closing ∧ span.closing < marks.length := by
  induction paired with
  | nil => cases member
  | opening region paired ih =>
      obtain ⟨notOpened, ordered, inside⟩ := ih member
      rw [List.length_append, List.length_singleton, List.mem_cons, not_or]
      exact ⟨⟨by omega, notOpened⟩, ordered, by omega⟩
  | @closing marks innermost outer spans paired ih =>
      rw [List.length_append, List.length_singleton]
      rcases List.mem_append.1 member with older | last
      · obtain ⟨notOpened, ordered, inside⟩ := ih older
        rw [List.mem_cons, not_or] at notOpened
        exact ⟨notOpened.2, ordered, by omega⟩
      · rw [List.mem_singleton.1 last]
        obtain ⟨distinct, inside⟩ := paired.opened
        exact ⟨(List.nodup_cons.1 distinct).1, inside innermost List.mem_cons_self,
          Nat.lt_succ_self _⟩

/-- The openings are those that are open and those of the spans. -/
theorem Paired.opening_iff {marks : List Mark} {opened : List Nat} {spans : List RegionSpan}
    (paired : Paired marks opened spans) (index : Nat) :
    (∃ region, marks[index]? = some (.opening region)) ↔
      index ∈ opened ∨ ∃ span ∈ spans, span.opening = index := by
  induction paired with
  | nil => simp
  | opening region paired ih =>
      simp only [getElem?_concat_eq_some, exists_or, ih, List.mem_cons, Mark.opening.injEq,
        exists_and_left, exists_eq', and_true]
      grind
  | closing paired ih =>
      simp only [getElem?_concat_eq_some, exists_or, ih, List.mem_cons, List.mem_append]
      grind

/-- The closings are those of the spans. -/
theorem Paired.closing_iff {marks : List Mark} {opened : List Nat} {spans : List RegionSpan}
    (paired : Paired marks opened spans) (index : Nat) :
    marks[index]? = some .closing ↔ ∃ span ∈ spans, span.closing = index := by
  induction paired with
  | nil => simp
  | opening region paired ih =>
      rw [getElem?_concat_eq_some, ih]
      exact or_iff_left fun last => by cases last.2
  | closing paired ih =>
      rw [getElem?_concat_eq_some, ih]
      simp only [List.mem_append, List.mem_singleton, or_and_right, exists_or, exists_eq_left, and_true]
      exact or_congr_right eq_comm

/-- Reading boundaries from the start pairs their marks. -/
theorem Paired.pair?_append {marks : List Mark} {opened : List Nat} {spans : List RegionSpan}
    (paired : Paired marks opened spans) {boundaries : List Boundary}
    (same : boundaries.map Boundary.mark = marks) (rest : List Boundary) :
    RegionSpan.pair? 0 [] (boundaries ++ rest) =
      (RegionSpan.pair? boundaries.length opened rest).map (spans ++ ·) := by
  induction paired generalizing boundaries rest with
  | nil =>
      obtain rfl := List.map_eq_nil_iff.1 same
      simp
  | opening region paired ih =>
      obtain ⟨before, after, rfl, front, back⟩ := List.map_eq_append_iff.1 same
      obtain ⟨boundary, rfl, mark⟩ := List.map_eq_singleton_iff.1 back
      cases boundary with
      | closing => cases mark
      | opening piece site region =>
          rw [List.append_assoc, ih front, List.singleton_append, RegionSpan.pair?, ← front,
            List.length_map, List.length_append, List.length_singleton]
  | closing paired ih =>
      obtain ⟨before, after, rfl, front, back⟩ := List.map_eq_append_iff.1 same
      obtain ⟨boundary, rfl, mark⟩ := List.map_eq_singleton_iff.1 back
      cases boundary with
      | opening => cases mark
      | closing piece site =>
          rw [List.append_assoc, ih front, List.singleton_append, RegionSpan.pair?, ← front,
            List.length_map, List.length_append, List.length_singleton, Option.map_map]
          simp [Function.comp_def]

/-- If no opening is left open, pairing finds the spans. -/
theorem Paired.pair? {marks : List Mark} {spans : List RegionSpan} (paired : Paired marks [] spans)
    {boundaries : List Boundary} (same : boundaries.map Boundary.mark = marks) :
    RegionSpan.pair? 0 [] boundaries = some spans := by
  have found := paired.pair?_append same []
  rw [List.append_nil] at found
  rw [found]
  simp [RegionSpan.pair?]

end Mark

end Stencil
