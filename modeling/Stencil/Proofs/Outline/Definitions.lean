/-
This file relates the definitions of an outline to its lines and to all its blocks.
-/
import Stencil.Proofs.Outline.Placed

namespace Stencil.Outline

/-- The lines of a block, from its opening to its closing line. -/
def Block.lines (block : Block) : List Line := block.opening :: (block.inside.lines ++ [block.closing])

theorem Block.placed_map_line (block : Block) : block.placed.map Placed.line = block.lines := by
  simp [placed, lines, Outline.placed_map_line]

/-- Away from the end of the text no line is its last. -/
theorem isLast_of_mem_placed {outline : Outline} {around : List Directive} {placed : Placed}
    (member : placed ∈ outline.placed around false) : placed.isLast = false := by
  induction outline generalizing around with
  | done => cases member
  | plain line between rest ih =>
      rcases List.mem_cons.1 member with rfl | later
      · rfl
      · exact ih later
  | region opening directives opens inside closing closes rest insideIh restIh =>
      rcases List.mem_cons.1 member with rfl | behind
      · rfl
      · rcases List.mem_append.1 behind with within | after
        · exact insideIh within
        · rcases List.mem_cons.1 after with rfl | later
          · rfl
          · exact restIh later

/-- Only the line behind which no other follows may be the last of the text. -/
theorem placed_isLast (outline : Outline) (around : List Directive) (atEnd : Bool) :
    (outline.placed around atEnd).Pairwise fun first _ => first.isLast = false := by
  have last {rest : Outline} {placed : Placed} (member : placed ∈ rest.placed around atEnd) :
      (atEnd && rest.isDone) = false := by
    cases rest with
    | done => cases member
    | plain | region => exact Bool.and_false atEnd
  induction outline with
  | done => exact .nil
  | plain line between rest ih => exact List.pairwise_cons.2 ⟨fun _ member => last member, ih⟩
  | region opening directives opens inside closing closes rest insideIh restIh =>
      refine List.pairwise_cons.2 ⟨fun _ _ => rfl, List.pairwise_append.2 ⟨?_, ?_, ?_⟩⟩
      · refine List.Pairwise.imp_of_mem ?_ (List.pairwise_of_forall fun _ _ => trivial)
        exact fun member _ _ => isLast_of_mem_placed member
      · exact List.pairwise_cons.2 ⟨fun _ member => last member, restIh⟩
      · exact fun first member _ _ => isLast_of_mem_placed member

theorem Block.isLast_of_mem_placed {block : Block} {placed : Placed} (member : placed ∈ block.placed) :
    placed.isLast = false := by
  rcases List.mem_cons.1 member with rfl | behind
  · rfl
  · rcases List.mem_append.1 behind with within | last
    · exact Outline.isLast_of_mem_placed within
    · rw [List.mem_singleton.1 last]

/-- The lines of a block stand in the outline in their order. -/
theorem sublist_of_mem_blocks {outline : Outline} {block : Block} (member : block ∈ outline.blocks) :
    block.lines.Sublist outline.lines := by
  induction outline with
  | done => cases member
  | plain line between rest ih => exact (ih member).trans (List.sublist_cons_self line rest.lines)
  | region opening directives opens inside closing closes rest insideIh restIh =>
      rw [lines_region]
      rcases List.mem_cons.1 member with rfl | behind
      · refine .cons_cons opening ((List.Sublist.refl inside.lines).append ?_)
        exact List.singleton_sublist.2 List.mem_cons_self
      · refine .cons opening ?_
        rcases List.mem_append.1 behind with within | after
        · exact (insideIh within).trans (List.sublist_append_left inside.lines (closing :: rest.lines))
        · exact ((restIh after).cons closing).trans (List.sublist_append_right inside.lines _)

/-- A block opens with its directives and closes, and its lines are lines of the outline. -/
theorem mem_blocks {outline : Outline} {block : Block} (member : block ∈ outline.blocks) :
    block.opening.Opens block.directives ∧ block.closing.closes = true ∧
      ∀ line ∈ block.lines, line ∈ outline.lines := by
  refine ⟨?_, ?_, fun line inside => (sublist_of_mem_blocks member).mem inside⟩
  all_goals
    induction outline with
    | done => cases member
    | plain line between rest ih => exact ih member
    | region opening directives opens inside closing closes rest insideIh restIh =>
        rcases List.mem_cons.1 member with rfl | behind
        · assumption
        · exact (List.mem_append.1 behind).elim insideIh restIh

/-- A definition is a block with directives. -/
theorem mem_definitions {outline : Outline} {block : Block} (member : block ∈ outline.definitions) :
    block ∈ outline.blocks ∧ block.directives ≠ [] := by
  induction outline with
  | done => cases member
  | plain line between rest ih => exact ih member
  | region opening directives opens inside closing closes rest insideIh restIh =>
      rw [definitions] at member
      rcases List.mem_append.1 member with here | after
      · split at here
        · obtain ⟨among, nonempty⟩ := insideIh here
          exact ⟨.tail _ (List.mem_append_left _ among), nonempty⟩
        · next nonempty =>
            rw [List.mem_singleton.1 here]
            exact ⟨List.mem_cons_self, fun empty => nonempty (List.isEmpty_iff.2 empty)⟩
      · obtain ⟨among, nonempty⟩ := restIh after
        exact ⟨.tail _ (List.mem_append_right _ among), nonempty⟩

namespace Block

section

variable {block : Block} (opens : block.opening.Opens block.directives)
  (closes : block.closing.closes = true)

include opens closes

/-- Where only blank and kept lines count, the lines that open and close a block with directives do not. -/
theorem flatMap_placed (nonempty : block.directives ≠ []) {Value : Type} {read : Placed → List Value}
    (dropped : ∀ placed : Placed, placed.line.kind ≠ .empty → placed.isKept = false →
      read placed = []) :
    block.placed.flatMap read = (block.inside.placed block.directives false).flatMap read := by
  obtain ⟨start, tokens, kind⟩ := opens.directed_of_ne_nil nonempty
  have opening : read ⟨block.opening, [], block.directives, false⟩ = [] :=
    dropped _ (by simp [kind]) (Placed.isKept_directives kind false)
  have closing : read ⟨block.closing, [], block.directives, false⟩ = [] :=
    dropped _ (Line.ne_empty_of_isText (Line.isText_of_closes closes))
      (Placed.isKept_closing closes nonempty false)
  rw [Block.placed, List.flatMap_cons, List.flatMap_append, List.flatMap_singleton, opening, closing,
    List.nil_append, List.append_nil]

/-- A block has the marks of the lines inside it between those of its directives. -/
theorem flatMap_marks (base : Nat) :
    block.placed.flatMap (Placed.marks base) =
      Directive.openings (block.opening.indentation - base) block.directives ++
        ((block.inside.placed block.directives false).flatMap (Placed.marks base) ++
          Directive.closings block.directives) := by
  rw [Block.placed, List.flatMap_cons, List.flatMap_append, List.flatMap_singleton,
    Placed.marks_opening opens.opens, Placed.marks_closing closes]

/-- The lines of a definition are admitted if its directives are, the lines inside it are, and its closing
line does not stand left of it. -/
theorem admitted_iff_inside (nonempty : block.directives ≠ []) :
    block.Admitted ↔ Directive.AllAdmitted .multiple [] block.directives ∧
      (∀ placed ∈ block.inside.placed block.directives false,
        placed.Admitted .multiple block.opening.indentation) ∧
      block.opening.indentation ≤ block.closing.indentation := by
  rw [Admitted, Block.placed, List.forall_mem_cons, List.forall_mem_append, List.forall_mem_singleton]
  refine and_congr ⟨fun admitted => admitted.directives opens.opens, fun admitted =>
    ⟨fun _ => Nat.le_refl _, fun _ => admitted⟩⟩ (and_congr .rfl ?_)
  exact Placed.admitted_closing_iff closes nonempty false

end

end Block

/-- The lines that open and close a definition add no text. -/
theorem definition_text {outline : Outline} {block : Block} (member : block ∈ outline.definitions)
    (base : Nat) :
    block.placed.flatMap (Placed.text base) =
      (block.inside.placed block.directives false).flatMap (Placed.text base) := by
  obtain ⟨among, nonempty⟩ := mem_definitions member
  obtain ⟨opens, closes, _⟩ := mem_blocks among
  exact Block.flatMap_placed opens closes nonempty fun _ notEmpty dropped =>
    Placed.text_dropped notEmpty dropped base

end Stencil.Outline
