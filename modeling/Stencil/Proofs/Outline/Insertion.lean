/-
This file finds the insertions among placed lines, and shows what the lines inside one add to a template: a line
break for each blank line, and nothing else.
-/
import Mathlib.Data.List.Basic
import Stencil.Proofs.Outline.Rules

namespace Stencil

/-- What all elements add has a value of one element. It stands behind what the elements before it add. -/
theorem exists_of_getElem?_flatMap {Element Value : Type} {parts : Element → List Value} {elements : List Element}
    {index : Nat} {value : Value} (found : (elements.flatMap parts)[index]? = some value) :
    ∃ before element after offset, elements = before ++ element :: after ∧
      index = (before.flatMap parts).length + offset ∧ (parts element)[offset]? = some value := by
  induction elements generalizing index with
  | nil => cases found
  | cons element rest ih =>
      rw [List.flatMap_cons] at found
      by_cases here : index < (parts element).length
      · rw [List.getElem?_append_left here] at found
        exact ⟨[], element, rest, index, rfl, (Nat.zero_add index).symm, found⟩
      · have behind := Nat.le_of_not_lt here
        rw [List.getElem?_append_right behind] at found
        obtain ⟨before, other, after, offset, rfl, position, located⟩ := ih found
        refine ⟨element :: before, other, after, offset, rfl, ?_, located⟩
        rw [List.flatMap_cons, List.length_append, Nat.add_assoc, ← position]
        omega

/-- The line break that a blank line leaves. -/
def Line.lineBreak (line : Line) : Piece := ⟨line.start, [], none, true, none⟩

/-- The line breaks that the blank lines among some lines leave. -/
def Line.lineBreaks (lines : List Line) : List Piece :=
  (lines.filter fun line => line.kind = .empty).map Line.lineBreak

/-- A line break is no site. -/
theorem Line.countP_lineBreaks (lines : List Line) : (Line.lineBreaks lines).countP Piece.isSite = 0 := by
  rw [List.countP_eq_zero]
  intro piece member
  obtain ⟨line, _, rfl⟩ := List.mem_map.1 member
  exact Bool.false_ne_true

namespace Directive

variable {mode : Assembly.Mode} {opened : List Directive}

/-- Inside an insertion no directive is admitted. -/
theorem AllAdmitted.eq_nil {directives : List Directive} (admitted : AllAdmitted mode opened directives)
    (inserting : opened.any isInsert = true) : directives = [] := by
  cases directives with
  | nil => rfl
  | cons directive rest =>
      obtain ⟨other, member, inserts⟩ := List.any_eq_true.1 inserting
      have outside := (allAdmitted_cons.1 admitted).1.outside other member
      rw [inserts] at outside
      cases outside

/-- Behind an insertion no directive of its line is admitted. -/
theorem AllAdmitted.insertion_last {before after : List Directive} {directive : Directive}
    (admitted : AllAdmitted mode opened (before ++ directive :: after)) (inserts : directive.isInsert = true) :
    after = [] := by
  cases after with
  | nil => rfl
  | cons other rest =>
      have outside := (admitted (before ++ [directive]) other rest (by simp)).outside directive (by simp)
      rw [inserts] at outside
      cases outside

/-- The directives of a line that end with an insertion close it first. -/
theorem closings_insertion {directive : Directive} (inserts : directive.isInsert = true) (before : List Directive) :
    closings (before ++ [directive]) = .closing :: closings before := by
  have notDefine : directive.isDefine = false := by
    cases instruction : directive.instruction <;>
      simp_all [isInsert, isDefine, Instruction.keyword]
  rw [closings, closings, List.reverse_concat, List.filter_cons_of_pos (by simp [notDefine]), List.map_cons]

end Directive

namespace Placed

/-- Inside an insertion a line adds a line break if it is blank, and nothing if it is not. -/
theorem pieces_inserting {placed : Placed} (inserting : placed.inserting = true) (goesOn : placed.isLast = false)
    (base : Nat) : placed.pieces base = if placed.line.kind = .empty then [placed.line.lineBreak] else [] := by
  have dropped : placed.isKept = false := by
    cases kind : placed.line.kind <;> simp [isKept, kind, inserting]
  rw [pieces, goesOn, dropped, if_neg Bool.false_ne_true, if_neg Bool.false_ne_true]
  rfl

end Placed

namespace Outline

/-- The directives around an outline are open at its lines. -/
theorem around_within {outline : Outline} {around : List Directive} {atEnd : Bool} {placed : Placed}
    (member : placed ∈ outline.placed around atEnd) : around <+: placed.around := by
  induction outline generalizing around atEnd with
  | done => cases member
  | plain line between rest ih =>
      rcases List.mem_cons.1 member with rfl | later
      · exact List.prefix_refl around
      · exact ih later
  | region opening directives opens inside closing closes rest insideIh restIh =>
      rcases List.mem_cons.1 member with rfl | behind
      · exact List.prefix_refl around
      · rcases List.mem_append.1 behind with within | after
        · exact (List.prefix_append around directives).trans (insideIh within)
        · rcases List.mem_cons.1 after with rfl | later
          · exact List.prefix_refl around
          · exact restIh later

section

variable {outline : Outline} {around : List Directive} (inserting : around.any Directive.isInsert = true)

include inserting

/-- Inside an insertion an outline has no marks. -/
theorem marks_inserting {mode : Assembly.Mode} {atEnd : Bool}
    (admitted : AllAdmitted mode (outline.placed around atEnd)) (base : Nat) :
    (outline.placed around atEnd).flatMap (Placed.marks base) = [] := by
  induction outline generalizing around atEnd with
  | done => rfl
  | plain line between rest ih =>
      rw [placed, List.flatMap_cons, Placed.marks_nil, List.nil_append]
      exact ih inserting ((allAdmitted_plain between rest _ _).1 admitted)
  | region opening directives opens inside closing closes rest insideIh restIh =>
      obtain ⟨⟨here, inner⟩, after⟩ := (allAdmitted_region opens closes inside rest _ _).1 admitted
      obtain rfl := here.eq_nil inserting
      rw [List.append_nil] at inner
      rw [placed, List.flatMap_cons, List.flatMap_append, List.flatMap_cons, Placed.marks_nil, Placed.marks_nil,
        List.append_nil, insideIh inserting inner, restIh inserting after]
      rfl

/-- Inside an insertion an outline has a line break for each blank line. -/
theorem pieces_inserting (base : Nat) :
    (outline.placed around false).flatMap (Placed.pieces base) = Line.lineBreaks outline.lines := by
  have each : ∀ placed ∈ outline.placed around false,
      placed.pieces base = if placed.line.kind = .empty then [placed.line.lineBreak] else [] := by
    intro placed member
    refine Placed.pieces_inserting ?_ (isLast_of_mem_placed member) base
    obtain ⟨other, among, inserts⟩ := List.any_eq_true.1 inserting
    exact List.any_eq_true.2 ⟨other, (around_within member).subset among, inserts⟩
  have breaks (lines : List Line) :
      (lines.flatMap fun line => if line.kind = .empty then [line.lineBreak] else []) = Line.lineBreaks lines := by
    induction lines with
    | nil => rfl
    | cons line rest ih =>
        rw [List.flatMap_cons, ih, Line.lineBreaks, Line.lineBreaks]
        by_cases empty : line.kind = .empty
        · rw [if_pos empty, List.filter_cons_of_pos (by simpa using empty)]
          rfl
        · rw [if_neg empty, List.filter_cons_of_neg (by simpa using empty)]
          rfl
  rw [← outline.placed_map_line around false, ← breaks, List.flatMap_map, List.flatMap_congr each]

end

/-- Behind a line that opens a region come the lines of an outline and the line that closes the region. -/
theorem placed_opening {outline : Outline} {around : List Directive} {atEnd : Bool} {before after : List Placed}
    {opening : Placed} (same : outline.placed around atEnd = before ++ opening :: after)
    (opens : opening.line.opens = true) :
    ∃ (inside : Outline) (closing : Placed) (rest : List Placed),
      after = inside.placed (opening.around ++ opening.own) false ++ closing :: rest ∧
        opening.line.Opens opening.own ∧ closing.line.closes = true ∧ closing.own = opening.own := by
  induction outline generalizing around atEnd before after with
  | done =>
      cases before <;> cases same
  | plain line between rest ih =>
      cases before with
      | nil =>
          obtain ⟨rfl, _⟩ := List.cons.inj same
          rw [between.1] at opens
          cases opens
      | cons first before => exact ih (List.cons.inj same).2
  | region first directives firstOpens inside closing closes rest insideIh restIh =>
      have notClosing {last : Placed} (isLast : last.line = closing) : opening ≠ last := by
        rintro rfl
        rw [isLast, Line.not_opens_of_closes closes] at opens
        cases opens
      cases before with
      | nil =>
          obtain ⟨rfl, rfl⟩ := List.cons.inj same
          exact ⟨inside, _, _, rfl, firstOpens, closes, rfl⟩
      | cons head before =>
          have tails := (List.cons.inj same).2
          rcases List.append_eq_append_iff.1 tails with ⟨between, rfl, tail⟩ | ⟨between, within, tail⟩
          · cases between with
            | nil => exact absurd (List.cons.inj tail).1.symm (notClosing rfl)
            | cons last between => exact restIh (List.cons.inj tail).2
          · cases between with
            | nil => exact absurd (List.cons.inj tail).1 (notClosing rfl)
            | cons last between =>
                obtain ⟨rfl, rfl⟩ := List.cons.inj tail
                obtain ⟨inner, last, others, rfl, facts⟩ := insideIh within
                exact ⟨inner, last, _, List.append_assoc .., facts⟩

end Outline

end Stencil
