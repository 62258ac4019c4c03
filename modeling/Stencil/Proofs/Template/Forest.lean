/-
This file holds region forests and the spans of their nodes, and shows that pairing the marks of a forest
finds these spans.
-/
import Stencil.Proofs.Template.Mark

namespace Stencil

/-- A forest is the regions of a template with the regions inside each of them. -/
inductive Forest where
  | done
  | node (region : Region) (inside rest : Forest)

namespace Forest

/-- The marks of a forest: each region opens, has the marks inside it, and closes. -/
def marks : Forest → List Mark
  | .done => []
  | .node region inside rest => .opening region :: (inside.marks ++ .closing :: rest.marks)

/-- The number of marks. -/
def size : Forest → Nat
  | .done => 0
  | .node _ inside rest => inside.size + rest.size + 2

/-- The spans of a forest whose marks start at an index, below some regions. They stand in the order in
which the regions open. -/
def spans (index depth : Nat) : Forest → List RegionSpan
  | .done => []
  | .node _ inside rest =>
      ⟨index, index + inside.size + 1, depth⟩ ::
        (inside.spans (index + 1) (depth + 1) ++ rest.spans (index + inside.size + 2) depth)

/-- The spans lie within the marks of the forest. -/
theorem spans_bounds {forest : Forest} {index depth : Nat} {span : RegionSpan}
    (member : span ∈ forest.spans index depth) :
    index ≤ span.opening ∧ span.opening < span.closing ∧ span.closing < index + forest.size := by
  induction forest generalizing index depth with
  | done => cases member
  | node region inside rest insideIh restIh =>
      simp only [size]
      rcases List.mem_cons.1 member with rfl | behind
      · dsimp only
        omega
      · rcases List.mem_append.1 behind with within | after
        · have := insideIh within
          omega
        · have := restIh after
          omega

/-- One span lies strictly inside another. -/
def Encloses (outer inner : RegionSpan) : Prop :=
  outer.opening < inner.opening ∧ inner.closing < outer.closing

instance (outer inner : RegionSpan) : Decidable (Encloses outer inner) :=
  inferInstanceAs (Decidable (_ ∧ _))

/-- Of two spans, the first to open encloses the other or closes before it. -/
theorem spans_nested (forest : Forest) (index depth : Nat) :
    (forest.spans index depth).Pairwise fun first second =>
      Encloses first second ∨ first.closing < second.opening := by
  induction forest generalizing index depth with
  | done => exact .nil
  | node region inside rest insideIh restIh =>
      refine List.pairwise_cons.2 ⟨fun second member => ?_, List.pairwise_append.2
        ⟨insideIh _ _, restIh _ _, fun first within second after => .inr ?_⟩⟩
      · rcases List.mem_append.1 member with within | after
        · have bounds := spans_bounds within
          exact .inl ⟨by dsimp only; omega, by dsimp only; omega⟩
        · have bounds := spans_bounds after
          exact .inr (by dsimp only; omega)
      · have := spans_bounds within
        have := spans_bounds after
        omega

/-- The spans stand in the order in which they open. -/
theorem spans_ordered (forest : Forest) (index depth : Nat) :
    (forest.spans index depth).Pairwise fun first second => first.opening < second.opening := by
  refine (List.Pairwise.and_mem.1 (forest.spans_nested index depth)).imp ?_
  rintro first second ⟨member, _, nested | apart⟩
  · exact nested.1
  · exact Nat.lt_trans (spans_bounds member).2.1 apart

/-- A span is known by its opening. -/
theorem spans_injective {forest : Forest} {index depth : Nat} {first second : RegionSpan}
    (inFirst : first ∈ forest.spans index depth) (inSecond : second ∈ forest.spans index depth)
    (same : first.opening = second.opening) : first = second := by
  have ordered := forest.spans_ordered index depth
  refine ordered.imp (S := fun first second => first.opening = second.opening → first = second)
    (fun before same => absurd same (Nat.ne_of_lt before)) |>.forall_of_forall_of_flip
      (fun _ _ _ => rfl) ?_ inFirst inSecond same
  exact ordered.imp fun before same => absurd same.symm (Nat.ne_of_lt before)

/-- No span is counted where none encloses the other. -/
theorem countP_encloses_eq_zero (spans : List RegionSpan) (span : RegionSpan)
    (apart : ∀ outer ∈ spans, ¬Encloses outer span) :
    (spans.countP fun outer => Encloses outer span) = 0 := by
  rw [List.countP_eq_zero]
  intro outer member
  rw [decide_eq_true_eq]
  exact apart outer member

/-- The depth of a span counts the spans that enclose it, and the regions around the forest. -/
theorem spans_depth {forest : Forest} {index depth : Nat} {span : RegionSpan}
    (member : span ∈ forest.spans index depth) :
    span.depth = depth + (forest.spans index depth).countP fun outer => Encloses outer span := by
  induction forest generalizing index depth with
  | done => cases member
  | node region inside rest insideIh restIh =>
      rw [spans, List.countP_cons, List.countP_append]
      rcases List.mem_cons.1 member with rfl | behind
      · have insideApart := countP_encloses_eq_zero (inside.spans (index + 1) (depth + 1))
          ⟨index, index + inside.size + 1, depth⟩ fun outer found enclosed => by
            have := spans_bounds found
            have := enclosed.1
            dsimp only at this
            omega
        have restApart := countP_encloses_eq_zero (rest.spans (index + inside.size + 2) depth)
          ⟨index, index + inside.size + 1, depth⟩ fun outer found enclosed => by
            have := spans_bounds found
            have := enclosed.1
            dsimp only at this
            omega
        rw [insideApart, restApart, if_neg (by simp [Encloses])]
        rfl
      · rcases List.mem_append.1 behind with within | after
        · have bounds := spans_bounds within
          have restApart := countP_encloses_eq_zero
            (rest.spans (index + inside.size + 2) depth) span fun outer found enclosed => by
              have := spans_bounds found
              have := enclosed.1
              omega
          have enclosed : Encloses ⟨index, index + inside.size + 1, depth⟩ span :=
            ⟨by dsimp only; omega, by dsimp only; omega⟩
          rw [restApart, if_pos (decide_eq_true enclosed), insideIh within]
          omega
        · have bounds := spans_bounds after
          have insideApart := countP_encloses_eq_zero
            (inside.spans (index + 1) (depth + 1)) span fun outer found enclosed => by
              have := spans_bounds found
              have := enclosed.2
              omega
          have apart : ¬Encloses ⟨index, index + inside.size + 1, depth⟩ span := by
            rintro ⟨_, before⟩
            dsimp only at before
            omega
          rw [insideApart, if_neg (by simpa using apart), restIh after]
          omega

/-- Pairing boundaries with the marks of a forest finds the spans of the forest. -/
theorem pair?_append {forest : Forest} {boundaries : List Boundary}
    (same : boundaries.map Boundary.mark = forest.marks) (index : Nat) (opened : List Nat)
    (rest : List Boundary) :
    ∃ found : List RegionSpan, found.Perm (forest.spans index opened.length) ∧
      RegionSpan.pair? index opened (boundaries ++ rest) =
        (RegionSpan.pair? (index + forest.size) opened rest).map (found ++ ·) := by
  induction forest generalizing boundaries index opened rest with
  | done =>
      obtain rfl := List.map_eq_nil_iff.1 same
      exact ⟨[], .nil, by simp [size]⟩
  | node region inside after insideIh afterIh =>
      obtain ⟨first, others, rfl, mark, others'⟩ := List.map_eq_cons_iff.1 same
      obtain ⟨within, behind, rfl, withinMarks, behind'⟩ := List.map_eq_append_iff.1 others'
      obtain ⟨last, later, rfl, mark', laterMarks⟩ := List.map_eq_cons_iff.1 behind'
      cases first with
      | closing => cases mark
      | opening piece site region =>
          cases last with
          | opening => cases mark'
          | closing piece' site' =>
              obtain ⟨insideSpans, insidePerm, insideFound⟩ :=
                insideIh withinMarks (index + 1) (index :: opened) (.closing piece' site' :: (later ++ rest))
              obtain ⟨afterSpans, afterPerm, afterFound⟩ :=
                afterIh laterMarks (index + inside.size + 2) opened rest
              refine ⟨insideSpans ++ ⟨index, index + inside.size + 1, opened.length⟩ :: afterSpans,
                ?_, ?_⟩
              · refine List.perm_middle.trans (.cons _ ?_)
                exact insidePerm.append afterPerm
              · rw [List.cons_append, List.append_assoc, List.cons_append, RegionSpan.pair?,
                  insideFound, RegionSpan.pair?]
                have closes : index + 1 + inside.size = index + inside.size + 1 := by omega
                have total : index + inside.size + 2 + after.size =
                    index + (Forest.node region inside after).size := by
                  simp only [size]
                  omega
                rw [closes, afterFound, total, Option.map_map, Option.map_map]
                simp only [Function.comp_def, List.append_assoc, List.cons_append]
                rfl

/-- The regions of a template with the marks of a forest are the spans of the forest. -/
theorem regions?_eq {forest : Forest} {template : Template}
    (same : template.boundaries.toList.map Boundary.mark = forest.marks) :
    template.regions? = some (forest.spans 0 0) := by
  obtain ⟨found, perm, success⟩ := pair?_append same 0 [] []
  rw [List.append_nil] at success
  rw [Template.regions?, success]
  simp only [RegionSpan.pair?, List.isEmpty_nil, if_true, Option.map_some, List.append_nil,
    Option.some.injEq]
  have sorted : (found.mergeSort fun first second => first.opening ≤ second.opening).Pairwise
      fun first second => decide (first.opening ≤ second.opening) = true := by
    apply List.pairwise_mergeSort
    · simp only [decide_eq_true_eq]
      omega
    · simp only [Bool.or_eq_true, decide_eq_true_eq]
      omega
  have sorting := (List.mergeSort_perm found fun first second =>
    decide (first.opening ≤ second.opening)).trans perm
  refine List.Perm.eq_of_pairwise ?_ sorted ?_ sorting
  · intro first second inFirst inSecond before after
    rw [decide_eq_true_eq] at before after
    exact spans_injective (sorting.subset inFirst) inSecond (Nat.le_antisymm before after)
  · refine (forest.spans_ordered 0 0).imp fun ordered => ?_
    exact decide_eq_true (Nat.le_of_lt ordered)

end Forest

end Stencil
