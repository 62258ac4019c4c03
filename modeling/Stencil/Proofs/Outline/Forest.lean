/-
This file gives the region forest of an outline, whose marks are those of the outline's lines.
-/
import Stencil.Proofs.Outline.Definitions
import Stencil.Proofs.Template.Forest

namespace Stencil

namespace Forest

/-- One forest and then another. -/
def append : Forest → Forest → Forest
  | .done, after => after
  | .node region inside rest, after => .node region inside (rest.append after)

/-- Some regions around a forest, the first of them outermost. -/
def nest (regions : List Region) (inside : Forest) : Forest :=
  regions.foldr (fun region inside => .node region inside .done) inside

theorem marks_append (first second : Forest) :
    (first.append second).marks = first.marks ++ second.marks := by
  induction first with
  | done => rfl
  | node region inside rest _ ih =>
      rw [append, marks, ih, marks, List.cons_append, List.append_assoc, List.cons_append]

/-- The marks of a nest: its openings, the marks inside it, and as many closings. -/
theorem marks_nest (regions : List Region) (inside : Forest) :
    (nest regions inside).marks =
      regions.map .opening ++ (inside.marks ++ List.replicate regions.length .closing) := by
  induction regions with
  | nil => simp [nest]
  | cons region rest ih =>
      change Mark.opening region :: ((nest rest inside).marks ++ [.closing]) = _
      rw [ih, List.map_cons, List.length_cons, List.replicate_succ']
      simp only [List.cons_append, List.append_assoc]

end Forest

/-- Directives close as many regions as they open. -/
theorem Directive.closings_eq (indentation : Nat) (directives : List Directive) :
    closings directives =
      List.replicate (directives.filterMap (region? indentation)).length .closing := by
  have count : (directives.filterMap (region? indentation)).length =
      (directives.filter fun directive => !directive.isDefine).length := by
    induction directives with
    | nil => rfl
    | cons directive rest ih =>
        have opens := directive.region?_isSome indentation
        cases region : directive.region? indentation with
        | none =>
            rw [region] at opens
            rw [List.filterMap_cons_none region, List.filter_cons, ← opens]
            exact ih
        | some found =>
            rw [region] at opens
            rw [List.filterMap_cons_some region, List.filter_cons, ← opens, List.length_cons, ih]
            rfl
  rw [closings, List.map_const', List.filter_reverse, List.length_reverse, count]

namespace Outline

/-- The region forest of an outline over a base. The regions of one line lie inside one another, and a
region without directives leaves only what is inside it. -/
def forest (base : Nat) : Outline → Forest
  | .done => .done
  | .plain _ _ rest => rest.forest base
  | .region opening directives _ inside _ _ rest =>
      (Forest.nest (directives.filterMap (Directive.region? (opening.indentation - base)))
        (inside.forest base)).append (rest.forest base)

/-- The region forest of a block. -/
def Block.forest (base : Nat) (block : Block) : Forest :=
  Forest.nest (block.directives.filterMap (Directive.region? (block.opening.indentation - base)))
    (block.inside.forest base)

/-- The lines of an outline have the marks of its region forest. -/
theorem placed_marks (outline : Outline) (base : Nat) (around : List Directive) (atEnd : Bool) :
    (outline.placed around atEnd).flatMap (Placed.marks base) = (outline.forest base).marks := by
  induction outline generalizing around atEnd with
  | done => rfl
  | plain line between rest ih =>
      rw [placed, List.flatMap_cons, Placed.marks_nil, List.nil_append, ih, forest]
  | region opening directives opens inside closing closes rest insideIh restIh =>
      rw [placed, List.flatMap_cons, List.flatMap_append, List.flatMap_cons,
        Placed.marks_opening opens.opens, Placed.marks_closing closes, insideIh, restIh, forest,
        Forest.marks_append, Forest.marks_nest, Directive.closings_eq (opening.indentation - base), Directive.openings]
      simp only [List.append_assoc]

/-- The lines of a block have the marks of its region forest. -/
theorem Block.placed_marks {block : Block} (opens : block.opening.Opens block.directives)
    (closes : block.closing.closes = true) (base : Nat) :
    block.placed.flatMap (Placed.marks base) = (block.forest base).marks := by
  rw [flatMap_marks opens closes, Outline.placed_marks, forest, Forest.marks_nest,
    Directive.closings_eq (block.opening.indentation - base), Directive.openings]

end Outline

end Stencil
