/-
This file states the structural rules of an outline, and shows that the lines of its definitions keep them
exactly if all its lines do.
-/
import Stencil.Proofs.Outline.Definitions

namespace Stencil

namespace Directive

theorem name?_isSome (directive : Directive) : directive.name?.isSome = directive.isDefine := by
  cases instruction : directive.instruction <;> simp [name?, isDefine, instruction, Instruction.keyword]

/-- Inside other directives no directive that is admitted gives a name. -/
theorem AllAdmitted.names_eq_nil {mode : Assembly.Mode} {opened directives : List Directive}
    (admitted : AllAdmitted mode opened directives) (inside : opened ≠ []) :
    directives.filterMap name? = [] := by
  rw [List.filterMap_eq_nil_iff]
  intro directive member
  obtain ⟨before, after, same⟩ := List.append_of_mem member
  have none := (admitted before directive after same).defines
  rw [← Option.not_isSome_iff_eq_none, name?_isSome]
  intro defines
  exact inside (List.append_eq_nil_iff.1 (none.1 defines).2).1

end Directive

namespace Outline

/-- The directives of all lines of an outline are admitted in their places. -/
def AllAdmitted (mode : Assembly.Mode) (lines : List Placed) : Prop :=
  ∀ placed ∈ lines, placed.line.opens = true → Directive.AllAdmitted mode placed.around placed.own

theorem allAdmitted_plain {mode : Assembly.Mode} {line : Line}
    (between : line.opens = false ∧ line.closes = false) (rest : Outline) (around : List Directive)
    (atEnd : Bool) :
    AllAdmitted mode ((plain line between rest).placed around atEnd) ↔
      AllAdmitted mode (rest.placed around atEnd) := by
  rw [AllAdmitted, placed, List.forall_mem_cons]
  exact and_iff_right fun opening => absurd opening (Bool.eq_false_iff.1 between.1)

/-- The directives of a region are admitted, and so are those inside it and those after it. -/
theorem allAdmitted_region {mode : Assembly.Mode} {opening closing : Line} {directives : List Directive}
    (opens : opening.Opens directives) (closes : closing.closes = true) (inside rest : Outline)
    (around : List Directive) (atEnd : Bool) :
    AllAdmitted mode ((region opening directives opens inside closing closes rest).placed around atEnd) ↔
      (Directive.AllAdmitted mode around directives ∧
        AllAdmitted mode (inside.placed (around ++ directives) false)) ∧
      AllAdmitted mode (rest.placed around atEnd) := by
  have notOpening := Bool.eq_false_iff.1 (Line.not_opens_of_closes closes)
  rw [AllAdmitted, placed, List.forall_mem_cons, List.forall_mem_append, List.forall_mem_cons]
  constructor
  · rintro ⟨here, within, _, after⟩
    exact ⟨⟨here opens.opens, within⟩, after⟩
  · rintro ⟨⟨here, within⟩, after⟩
    exact ⟨fun _ => here, within, fun opening => absurd opening notOpening, after⟩

/-- The directives of a block are admitted, and so are those inside it. -/
theorem Block.allAdmitted_iff {mode : Assembly.Mode} {block : Block}
    (opens : block.opening.Opens block.directives) (closes : block.closing.closes = true) :
    AllAdmitted mode block.placed ↔ Directive.AllAdmitted mode [] block.directives ∧
      AllAdmitted mode (block.inside.placed block.directives false) := by
  have single : block.placed =
      (region block.opening block.directives opens block.inside block.closing closes .done).placed [] false :=
    rfl
  rw [single, allAdmitted_region]
  exact and_iff_left fun placed member => (nomatch member)

theorem names_region {opening closing : Line} {directives : List Directive}
    (opens : opening.Opens directives) (closes : closing.closes = true) (inside rest : Outline) :
    (region opening directives opens inside closing closes rest).names =
      directives.filterMap Directive.name? ++ (inside.names ++ rest.names) := by
  simp only [names, blocks, List.flatMap_cons, List.flatMap_append]

/-- Inside directives an outline with admitted directives gives no names. -/
theorem names_inside {mode : Assembly.Mode} {outline : Outline} {around : List Directive} {atEnd : Bool}
    (inside : around ≠ []) (admitted : AllAdmitted mode (outline.placed around atEnd)) :
    outline.names = [] := by
  induction outline generalizing around atEnd with
  | done => rfl
  | plain line between rest ih => exact ih inside ((allAdmitted_plain between rest _ _).1 admitted)
  | region opening directives opens within closing closes rest withinIh restIh =>
      obtain ⟨⟨here, inner⟩, after⟩ := (allAdmitted_region opens closes within rest _ _).1 admitted
      have deeper : around ++ directives ≠ [] := fun empty => inside (List.append_eq_nil_iff.1 empty).1
      rw [names_region, here.names_eq_nil inside, withinIh deeper inner, restIh inside after]
      rfl

/-- An outline with admitted directives has the names of its definitions. -/
theorem names_eq {outline : Outline} {atEnd : Bool}
    (admitted : AllAdmitted .multiple (outline.placed [] atEnd)) :
    outline.names = outline.definitions.filterMap Block.name? := by
  induction outline generalizing atEnd with
  | done => rfl
  | plain line between rest ih => exact ih ((allAdmitted_plain between rest _ _).1 admitted)
  | region opening directives opens within closing closes rest withinIh restIh =>
      obtain ⟨⟨here, inner⟩, after⟩ := (allAdmitted_region opens closes within rest _ _).1 admitted
      rw [names_region, definitions, List.filterMap_append, ← restIh after]
      cases directives with
      | nil =>
          rw [withinIh inner]
          rfl
      | cons directive others =>
          rw [Directive.allAdmitted_cons] at here
          rw [names_inside (List.cons_ne_nil _ _) inner, List.filterMap_cons,
            here.2.names_eq_nil (List.cons_ne_nil _ _)]
          cases name : directive.name? <;> simp [Block.name?, name]

/-- The directives of an outline are admitted exactly if those of its definitions are. -/
theorem definitions_allAdmitted_iff {outline : Outline} (atEnd : Bool) :
    (∀ block ∈ outline.definitions, AllAdmitted .multiple block.placed) ↔
      AllAdmitted .multiple (outline.placed [] atEnd) := by
  induction outline generalizing atEnd with
  | done => exact ⟨fun _ placed member => (nomatch member), fun _ block member => (nomatch member)⟩
  | plain line between rest ih => exact (ih atEnd).trans (allAdmitted_plain between rest _ _).symm
  | region opening directives opens inside closing closes rest insideIh restIh =>
      rw [allAdmitted_region, definitions, List.forall_mem_append, restIh atEnd]
      refine and_congr ?_ .rfl
      cases directives with
      | nil =>
          rw [List.isEmpty_nil, if_pos rfl, insideIh false]
          exact (and_iff_right (Directive.allAdmitted_nil _ _)).symm
      | cons directive others =>
          rw [List.isEmpty_cons, if_neg Bool.false_ne_true, List.forall_mem_singleton]
          exact Block.allAdmitted_iff opens closes

/-- No line of a definition that is not blank stands left of the definition. -/
def Indented (outline : Outline) : Prop :=
  ∀ block ∈ outline.blocks, (∃ directive ∈ block.directives, directive.isDefine = true) →
    ∀ line ∈ block.inside.lines ++ [block.closing], line.kind ≠ .empty →
      block.opening.indentation ≤ line.indentation

/-- The lines of an indented block at the top level are admitted exactly if its directives are. -/
theorem Block.admitted_iff {block : Block} (nonempty : block.directives ≠ [])
    (opens : block.opening.opens = true)
    (indented : (∃ directive ∈ block.directives, directive.isDefine = true) →
      ∀ line ∈ block.inside.lines ++ [block.closing], line.kind ≠ .empty →
        block.opening.indentation ≤ line.indentation) :
    block.Admitted ↔ AllAdmitted .multiple block.placed := by
  refine ⟨fun admitted placed member => (admitted placed member).directives, fun admitted placed member =>
    ⟨fun checked => ?_, admitted placed member⟩⟩
  rcases List.mem_cons.1 member with rfl | behind
  · exact Nat.le_refl _
  · have notEmpty : placed.line.kind ≠ .empty := by
      intro empty
      rw [Placed.isChecked, empty] at checked
      cases checked
    -- The first directive is admitted at the top level, so it is a definition.
    obtain ⟨directive, rest, same⟩ := List.exists_cons_of_ne_nil nonempty
    have here := admitted _ List.mem_cons_self opens
    have defines : directive.isDefine = true := (here [] directive rest same).defines.2 ⟨rfl, rfl⟩
    refine indented ⟨directive, same ▸ List.mem_cons_self, defines⟩ placed.line ?_ notEmpty
    have lines : (block.inside.placed block.directives false ++
        [(⟨block.closing, [], block.directives, false⟩ : Placed)]).map Placed.line =
          block.inside.lines ++ [block.closing] := by
      rw [List.map_append, Outline.placed_map_line, List.map_singleton]
    rw [← lines]
    exact List.mem_map_of_mem behind

/-- The definitions of an indented outline have admitted lines exactly if the directives of the outline
are admitted. -/
theorem definitions_admitted_iff {outline : Outline} (indented : outline.Indented) :
    (∀ block ∈ outline.definitions, block.Admitted) ↔ AllAdmitted .multiple (outline.placed [] true) := by
  rw [← definitions_allAdmitted_iff true]
  refine forall₂_congr fun block member => ?_
  obtain ⟨among, nonempty⟩ := mem_definitions member
  exact Block.admitted_iff nonempty (mem_blocks among).1.opens (indented block among)

/-- An outline opens a directive while some others are open, outermost first. -/
def OpensUnder (outline : Outline) (opened : List Directive) (directive : Directive) : Prop :=
  ∃ placed ∈ outline.placed [] true, placed.line.opens = true ∧ ∃ before after,
    placed.own = before ++ directive :: after ∧ opened = placed.around ++ before

theorem allAdmitted_iff {mode : Assembly.Mode} {outline : Outline} :
    AllAdmitted mode (outline.placed [] true) ↔
      ∀ opened directive, outline.OpensUnder opened directive → directive.Admitted mode opened := by
  constructor
  · rintro admitted _ directive ⟨placed, member, opens, before, after, same, rfl⟩
    exact admitted placed member opens before directive after same
  · intro admitted placed member opens before directive after same
    exact admitted _ directive ⟨placed, member, opens, before, after, same, rfl⟩

/-- The rules for every text: nothing opens inside an insertion, and each pattern compiles. -/
structure Sane (outline : Outline) : Prop where
  outside : ∀ opened directive, outline.OpensUnder opened directive →
    ∀ other ∈ opened, other.isInsert = false
  compiles : ∀ opened directive, outline.OpensUnder opened directive → directive.compiles = true

/-- The rules for a text that is one template: it has no definition. -/
structure LawfulSingle (outline : Outline) : Prop extends outline.Sane where
  undefined : ∀ opened directive, outline.OpensUnder opened directive → directive.isDefine = false

/-- The rules for a text that defines templates: definitions open at the top level and only there, where
nothing else opens, and their names are distinct and not empty. -/
structure LawfulMultiple (outline : Outline) : Prop extends outline.Sane where
  defines : ∀ opened directive, outline.OpensUnder opened directive →
    (directive.isDefine = true ↔ opened = [])
  named : ∀ name ∈ outline.names, name ≠ []
  distinct : outline.names.Nodup

end Outline

end Stencil
