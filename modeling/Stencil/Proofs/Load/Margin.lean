/-
This file says which lines of a definition are known not to stand left of it once the definition is loaded.
-/
import Mathlib.Data.List.Forall2
import Stencil.Proofs.Load.Basic
import Stencil.Proofs.Outline.Rules

namespace Stencil

/-- The line is text inside an insertion, which drops it. -/
def Placed.isDropped (placed : Placed) : Bool :=
  placed.inserting && match placed.line.kind with
    | .regular | .opening => true
    | .closing => placed.own.isEmpty
    | .empty | .directives _ _ => false

/-- Every line must not stand left of the base, apart from blank ones and those that an insertion drops. -/
theorem Placed.isChecked_iff {placed : Placed} :
    placed.isChecked = true ↔ placed.line.kind ≠ .empty ∧ placed.isDropped = false := by
  cases kind : placed.line.kind <;> cases inserting : placed.inserting <;> simp [isChecked, isDropped, *]

namespace Outline

/-- A block defines a template. -/
def Block.Defines (block : Block) : Prop := ∃ directive ∈ block.directives, directive.isDefine = true

/-- The text that is dropped inside the definitions does not stand left of them. -/
def DroppedIndented (outline : Outline) : Prop :=
  ∀ block ∈ outline.blocks, block.Defines → ∀ placed ∈ block.placed, placed.isDropped = true →
    block.opening.indentation ≤ placed.line.indentation

/-- Inside directives no block defines a template if the directives are admitted. -/
theorem not_defines_inside {mode : Assembly.Mode} {outline : Outline} {around : List Directive} {atEnd : Bool}
    (inside : around ≠ []) (admitted : AllAdmitted mode (outline.placed around atEnd)) :
    ∀ block ∈ outline.blocks, ¬block.Defines := by
  rintro block among ⟨directive, member, defines⟩
  rw [← directive.name?_isSome, Option.isSome_iff_exists] at defines
  obtain ⟨name, same⟩ := defines
  have named : name ∈ outline.names :=
    List.mem_flatMap.2 ⟨block, among, List.mem_filterMap.2 ⟨directive, member, same⟩⟩
  rw [names_inside inside admitted] at named
  cases named

/-- A block that defines a template is a definition if the directives are admitted. -/
theorem mem_definitions_of_defines {outline : Outline} {atEnd : Bool}
    (admitted : AllAdmitted .multiple (outline.placed [] atEnd)) {block : Block}
    (among : block ∈ outline.blocks) (defines : block.Defines) : block ∈ outline.definitions := by
  induction outline generalizing atEnd with
  | done => cases among
  | plain line between rest ih => exact ih ((allAdmitted_plain between rest _ _).1 admitted) among
  | region opening directives opens inside closing closes rest insideIh restIh =>
      obtain ⟨⟨_, inner⟩, after⟩ := (allAdmitted_region opens closes inside rest _ _).1 admitted
      rw [definitions]
      rcases List.mem_cons.1 among with rfl | behind
      · refine List.mem_append_left _ ?_
        obtain ⟨directive, member, _⟩ := defines
        rw [if_neg (by simpa using List.ne_nil_of_mem member)]
        exact List.mem_cons_self
      · rcases List.mem_append.1 behind with within | later
        · refine List.mem_append_left _ ?_
          cases directives with
          | nil => exact insideIh inner within
          | cons first others => exact absurd defines (not_defines_inside (List.cons_ne_nil _ _) inner block within)
        · exact List.mem_append_right _ (restIh after later)

/-- The lines of a block behind its opening line are those that are placed behind it. -/
theorem Block.exists_placed {block : Block} {line : Line}
    (member : line ∈ block.inside.lines ++ [block.closing]) : ∃ placed ∈ block.placed, placed.line = line := by
  have behind := List.mem_cons_of_mem block.opening member
  change line ∈ block.lines at behind
  rw [← block.placed_map_line] at behind
  exact List.mem_map.1 behind

theorem Block.mem_of_mem_placed {block : Block} {placed : Placed} (member : placed ∈ block.placed) :
    placed.line = block.opening ∨ placed.line ∈ block.inside.lines ++ [block.closing] := by
  have among := List.mem_map_of_mem (f := Placed.line) member
  rw [block.placed_map_line] at among
  exact List.mem_cons.1 among

end Outline

/-- The lines of a definition that loads do not stand left of it, apart from blank ones and the text that its
insertions drop. So no line of any definition stands left of it exactly if this text does not. -/
theorem definition_margin {markers : Markers} {source : Text} {start stop : Nat} {set : TemplateSet}
    (loaded : TemplateSet.load markers source start stop = .ok set) :
    ∃ outline : Outline, Line.ofRange markers source start stop = .ok outline.lines ∧
      (∀ block ∈ outline.blocks, block.Defines → ∀ placed ∈ block.placed, placed.line.kind ≠ .empty →
        placed.isDropped = false → block.opening.indentation ≤ placed.line.indentation) ∧
      (outline.Indented ↔ outline.DroppedIndented) := by
  obtain ⟨outline, classified, _⟩ := TemplateSet.exists_made loaded
  have accepted := (TemplateSet.load_decided classified).holds set loaded
  have admitted := (Outline.definitions_allAdmitted_iff true).1 fun block member placed inside =>
    (accepted.1 block member placed inside).directives
  have checked : ∀ block ∈ outline.blocks, block.Defines → ∀ placed ∈ block.placed,
      placed.line.kind ≠ .empty → placed.isDropped = false →
        block.opening.indentation ≤ placed.line.indentation := by
    intro block among defines placed member notEmpty kept
    have definition := Outline.mem_definitions_of_defines admitted among defines
    exact (accepted.1 block definition placed member).indented (Placed.isChecked_iff.2 ⟨notEmpty, kept⟩)
  refine ⟨outline, classified, checked, fun indented block among defines placed member dropped => ?_,
    fun indented block among defines line member notEmpty => ?_⟩
  · rcases Outline.Block.mem_of_mem_placed member with first | behind
    · exact Nat.le_of_eq (congrArg Line.indentation first).symm
    · refine indented block among defines placed.line behind fun empty => ?_
      simp [Placed.isDropped, empty] at dropped
  · obtain ⟨placed, inside, rfl⟩ := Outline.Block.exists_placed member
    cases dropped : placed.isDropped with
    | false => exact checked block among defines placed inside notEmpty dropped
    | true => exact indented block among defines placed inside dropped

/-- A definition with an insertion, inside which a line stands left of both. -/
def looseInsertion : Text :=
  ("  #region TEMPLATE DEFINE(\"t\")\n  #region TEMPLATE INSERT($x)\nlow\n" ++
    "  #endregion\n  #endregion\n").toList

/-- A line with two spaces and directive text at a column. -/
def looseOpening (number start : Nat) (directives : String) : Line where
  number := number
  start := start
  text := ("  #region TEMPLATE " ++ directives).toList
  indentation? := some 2
  kind := .directives (start + 19) ((Token.scan number 19 (start + 19) directives.toList).toOption.getD [])

/-- A line that closes a region behind two spaces. -/
def looseClosing (number start : Nat) : Line := ⟨number, start, "  #endregion".toList, some 2, .closing⟩

/-- The line that stands left of its definition. -/
def looseLine : Line := ⟨2, 61, "low".toList, some 0, .regular⟩

/-- The definition with its insertion. -/
def looseOutline : Outline :=
  .region (looseOpening 0 0 "DEFINE(\"t\")") [⟨.define ['t'], 0, 19⟩] (.directed rfl (by decide +kernel))
    (.region (looseOpening 1 31 "INSERT($x)") [⟨.insert ['x'], 1, 19⟩] (.directed rfl (by decide +kernel))
      (.plain looseLine (by decide) .done) (looseClosing 3 65) (by decide) .done)
    (looseClosing 4 78) (by decide) .done

/-- A definition loads although a line inside it stands left of it. -/
theorem definition_margin_loose :
    ∃ set, TemplateSet.load .standard looseInsertion 0 91 = .ok set ∧
      ∃ outline : Outline, Line.ofRange .standard looseInsertion 0 91 = .ok outline.lines ∧
        (∀ block ∈ outline.blocks, block.Defines → ∀ placed ∈ block.placed, placed.line.kind ≠ .empty →
          placed.isDropped = false → block.opening.indentation ≤ placed.line.indentation) ∧
        ¬outline.Indented ∧ ¬outline.DroppedIndented := by
  have names : (TemplateSet.load .standard looseInsertion 0 91).toOption.map TemplateSet.names =
      some [['t']] := by decide +kernel
  have lines : Line.ofRange .standard looseInsertion 0 91 = .ok looseOutline.lines := by decide +kernel
  obtain ⟨set, loaded, _⟩ := exists_ok names
  obtain ⟨outline, classified, checked, exactly⟩ := definition_margin loaded
  obtain rfl : looseOutline = outline :=
    Outline.lines_injective (Except.ok.inj (lines.symm.trans classified))
  have loose : ¬looseOutline.Indented := fun indented =>
    absurd (indented _ List.mem_cons_self ⟨_, List.mem_cons_self, rfl⟩ looseLine (by simp) (by decide)) (by decide)
  exact ⟨set, loaded, _, classified, checked, loose, fun dropped => loose (exactly.2 dropped)⟩

end Stencil
