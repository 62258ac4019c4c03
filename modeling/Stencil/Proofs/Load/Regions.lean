/-
This file shows that the boundaries of a loaded template are the region forest of its lines.
-/
import Stencil.Proofs.Load.Sites
import Stencil.Proofs.Outline.Definitions
import Stencil.Proofs.Outline.Forest

namespace Stencil

/-- The boundaries of a template follow a region forest. -/
structure Template.Follows (template : Template) (forest : Forest) : Prop where
  /-- Without their indices and sites they are the marks of the forest. -/
  marks : template.boundaries.toList.map Boundary.mark = forest.marks
  /-- They pair up to the spans of the forest. -/
  paired : template.regions? = some (forest.spans 0 0)
  /-- There is a span for each opening boundary. -/
  openings : ∀ index, (∃ region, (template.boundaries[index]?).map Boundary.mark = some (.opening region)) ↔
    ∃ span ∈ forest.spans 0 0, span.opening = index
  /-- There is a span for each closing boundary. -/
  closings : ∀ index, (template.boundaries[index]?).map Boundary.mark = some .closing ↔
    ∃ span ∈ forest.spans 0 0, span.closing = index
  /-- The spans stand in the order in which they open. -/
  increasing : (forest.spans 0 0).Pairwise fun first second => first.opening < second.opening
  /-- Of two spans, the first encloses the second or closes before it. -/
  nested : (forest.spans 0 0).Pairwise fun first second =>
    Forest.Encloses first second ∨ first.closing < second.opening
  /-- The depth of a span is the number of the spans that enclose it. -/
  depth : ∀ span ∈ forest.spans 0 0,
    span.depth = (forest.spans 0 0).countP fun outer => Forest.Encloses outer span
  /-- The boundaries stand in the order of the pieces and of the sites. -/
  ordered : template.boundaries.toList.Pairwise fun first second =>
    first.piece ≤ second.piece ∧ first.site ≤ second.site
  /-- No boundary stands behind all pieces and sites. -/
  bounded : ∀ boundary ∈ template.boundaries,
    boundary.piece ≤ template.pieces.size ∧ boundary.site ≤ template.siteCount

/-- A sound template with the marks of a forest follows it. -/
theorem Template.Sound.follows {template : Template} (sound : template.Sound) {forest : Forest}
    (marks : template.boundaries.toList.map Boundary.mark = forest.marks) : template.Follows forest := by
  have paired := Forest.regions?_eq marks
  obtain ⟨ordered, bounded⟩ := sound.boundaries_ordered
  obtain ⟨spans, ledger⟩ := sound.ledger
  have pairing := ledger.paired
  have same (span : RegionSpan) := Template.mem_regions?_iff pairing paired span
  have located (index : Nat) : (template.boundaries[index]?).map Boundary.mark =
      (template.boundaries.toList.map Boundary.mark)[index]? := by
    rw [List.getElem?_map, Array.getElem?_toList]
  exact
    { marks
      paired
      openings := fun index => by
        simp only [located, pairing.opening_iff, same, List.not_mem_nil, false_or]
      closings := fun index => by
        simp only [located, pairing.closing_iff, same]
      increasing := forest.spans_ordered 0 0
      nested := forest.spans_nested 0 0
      depth := fun span member => by
        have count := forest.spans_depth member
        rwa [Nat.zero_add] at count
      ordered
      bounded }

/-- The boundaries of a loaded template are the marks of its lines and follow the region forest of its
range. Each template of a set follows the region forest of its definition. -/
theorem boundaries_follow_regions (markers : Markers) (source : Text) (start stop : Nat) :
    (∀ template, Template.load markers source start stop = .ok template →
      ∃ outline : Outline, Line.ofRange markers source start stop = .ok outline.lines ∧
        template.boundaries.toList.map Boundary.mark =
          (outline.placed [] true).flatMap (Placed.marks 0) ∧
        template.Follows (outline.forest 0)) ∧
    ∀ set, TemplateSet.load markers source start stop = .ok set →
      ∃ outline : Outline, Line.ofRange markers source start stop = .ok outline.lines ∧
        ∀ entry ∈ set.entries, ∃ block ∈ outline.definitions, block.name? = some entry.1 ∧
          entry.2.boundaries.toList.map Boundary.mark =
            block.placed.flatMap (Placed.marks block.opening.indentation) ∧
          entry.2.Follows (block.forest block.opening.indentation) := by
  refine ⟨fun template success => ?_, fun set success => ?_⟩
  · obtain ⟨outline, classified, _, made⟩ := Template.exists_made success
    refine ⟨outline, classified, made.marks, made.sound.follows ?_⟩
    rw [made.marks, outline.placed_marks]
  · obtain ⟨outline, classified, found⟩ := TemplateSet.exists_made success
    refine ⟨outline, classified, fun entry member => ?_⟩
    obtain ⟨block, among, named, _, made⟩ := found entry member
    obtain ⟨opens, closes, _⟩ := Outline.mem_blocks (Outline.mem_definitions among).1
    refine ⟨block, among, named, made.marks, made.sound.follows ?_⟩
    rw [made.marks, Outline.Block.placed_marks opens closes]

/-- A text with stacked directives around a plain region that has a region inside it. -/
def stackedRegions : Text :=
  ("#region TEMPLATE FOREACH($x : $xs) REPLACE(`a`, $x)\n  ba\n  #region plain\n" ++
    "#region TEMPLATE REPLACE(`b`, $y)\n  b\n#endregion\n  #endregion\n#endregion\nend\n").toList

theorem boundaries_follow_regions_stacked :
    (∃ template, Template.load .standard stackedRegions 0 150 = .ok template ∧
      template.boundaries.toList.map Boundary.mark =
        [.opening (.foreach ['x'] ['x', 's']), .opening (.replace ['x'] .empty #[]),
          .opening (.replace ['y'] .empty #[]), .closing, .closing, .closing] ∧
      ∃ outline : Outline, Line.ofRange .standard stackedRegions 0 150 = .ok outline.lines ∧
        template.Follows (outline.forest 0)) ∧
    ∃ set, TemplateSet.load .standard definedReplacement 0 63 = .ok set ∧
      (set.entries.map fun entry => entry.2.regions?) = [some [⟨0, 1, 0⟩]] ∧
      ∃ outline : Outline, Line.ofRange .standard definedReplacement 0 63 = .ok outline.lines ∧
        ∀ entry ∈ set.entries, ∃ block ∈ outline.definitions,
          entry.2.Follows (block.forest block.opening.indentation) := by
  have single : (Template.load .standard stackedRegions 0 150).toOption.map
      (fun template => template.boundaries.toList.map Boundary.mark) =
        some [.opening (.foreach ['x'] ['x', 's']), .opening (.replace ['x'] .empty #[]),
          .opening (.replace ['y'] .empty #[]), .closing, .closing, .closing] := by
    decide +kernel
  have multiple : (TemplateSet.load .standard definedReplacement 0 63).toOption.map
      (fun set => set.entries.map fun entry => entry.2.regions?) = some [some [⟨0, 1, 0⟩]] := by
    decide +kernel
  obtain ⟨template, loaded, marks⟩ := exists_ok single
  obtain ⟨set, loadedSet, spans⟩ := exists_ok multiple
  obtain ⟨outline, classified, _, follows⟩ := (boundaries_follow_regions _ _ _ _).1 template loaded
  obtain ⟨outlineSet, classifiedSet, found⟩ := (boundaries_follow_regions _ _ _ _).2 set loadedSet
  refine ⟨⟨template, loaded, marks, outline, classified, follows⟩,
    set, loadedSet, spans, outlineSet, classifiedSet, fun entry member => ?_⟩
  obtain ⟨block, among, _, _, followsBlock⟩ := found entry member
  exact ⟨block, among, followsBlock⟩

end Stencil
