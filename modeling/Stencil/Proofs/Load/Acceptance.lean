/-
This file says exactly when a range loads: its directives are well formed, its regions are balanced, and
its outline keeps the structural rules.
-/
import Stencil.Proofs.Load.Basic
import Stencil.Proofs.Outline.Rules

namespace Stencil

namespace Outline

/-- The lines of a single template are admitted exactly if its outline is lawful. -/
theorem admitted_iff_lawfulSingle {outline : Outline} :
    (∀ placed ∈ outline.placed [] true, placed.Admitted .single 0) ↔ outline.LawfulSingle := by
  have directives : (∀ placed ∈ outline.placed [] true, placed.Admitted .single 0) ↔
      AllAdmitted .single (outline.placed [] true) :=
    ⟨fun admitted placed member => (admitted placed member).directives, fun admitted placed member =>
      ⟨fun _ => Nat.zero_le _, admitted placed member⟩⟩
  rw [directives, allAdmitted_iff]
  constructor
  · intro admitted
    refine ⟨⟨fun opened directive opens => (admitted opened directive opens).outside,
      fun opened directive opens => (admitted opened directive opens).compiles⟩,
      fun opened directive opens => Bool.eq_false_iff.2 fun defines => ?_⟩
    cases ((admitted opened directive opens).defines.1 defines).1
  · intro lawful opened directive opens
    refine ⟨⟨fun defines => ?_, fun multiple => (nomatch multiple.1)⟩,
      lawful.outside opened directive opens, lawful.compiles opened directive opens⟩
    rw [lawful.undefined opened directive opens] at defines
    cases defines

/-- The definitions of an indented outline are accepted exactly if the outline is lawful. -/
theorem accepts_iff_lawfulMultiple {outline : Outline} (indented : outline.Indented) :
    Assembly.State.multiple.Accepts outline.definitions ↔ outline.LawfulMultiple := by
  rw [Assembly.State.Accepts, definitions_admitted_iff indented]
  constructor
  · rintro ⟨admitted, free⟩
    have names := names_eq admitted
    rw [← names] at free
    rw [allAdmitted_iff] at admitted
    exact
      { outside := fun opened directive opens => (admitted opened directive opens).outside
        compiles := fun opened directive opens => (admitted opened directive opens).compiles
        defines := fun opened directive opens =>
          (admitted opened directive opens).defines.trans (and_iff_right rfl)
        named := fun name member => (free.unused name member).1
        distinct := free.distinct }
  · intro lawful
    have admitted : AllAdmitted .multiple (outline.placed [] true) := by
      rw [allAdmitted_iff]
      intro opened directive opens
      exact ⟨(lawful.defines opened directive opens).trans (and_iff_right rfl).symm,
        lawful.outside opened directive opens, lawful.compiles opened directive opens⟩
    refine ⟨admitted, ?_⟩
    rw [← names_eq admitted]
    exact ⟨lawful.distinct, fun name member => ⟨lawful.named name member, List.not_mem_nil⟩⟩

end Outline

section

variable {markers : Markers} {source : Text} {start stop : Nat} {lines : List Line}

/-- A load succeeds if its lines have an outline that is accepted. -/
theorem ok_iff_of_outline {Result : Type} {outcome : Except Stop Result} {accepted : Outline → Prop}
    (exists_outline : ∀ result, outcome = .ok result → ∃ outline : Outline, outline.lines = lines)
    (decides : ∀ outline : Outline, outline.lines = lines →
      ((∃ result, outcome = .ok result) ↔ accepted outline)) :
    (∃ result, outcome = .ok result) ↔ Line.Parsed lines ∧ Line.Balanced 0 lines ∧
      ∀ outline : Outline, outline.lines = lines → accepted outline := by
  constructor
  · rintro ⟨result, success⟩
    obtain ⟨balanced, parsed⟩ := Outline.exists_iff.1 (exists_outline result success)
    exact ⟨parsed, balanced, fun outline same => (decides outline same).1 ⟨result, success⟩⟩
  · rintro ⟨parsed, balanced, lawful⟩
    obtain ⟨outline, same⟩ := Outline.exists_iff.2 ⟨balanced, parsed⟩
    exact (decides outline same).2 (lawful outline same)

end

/-- A range whose lines are classified loads as templates, provided that no line of a definition stands
left of it, and as one template exactly if its directives are well formed, its regions are balanced, and
its outline is lawful. The templates have the names that are defined. -/
theorem load_succeeds_iff {markers : Markers} {source : Text} {start stop : Nat} {lines : List Line}
    (classified : Line.ofRange markers source start stop = .ok lines) :
    ((∀ outline : Outline, outline.lines = lines → outline.Indented) →
      ((∃ set, TemplateSet.load markers source start stop = .ok set) ↔
        Line.Parsed lines ∧ Line.Balanced 0 lines ∧
          ∀ outline : Outline, outline.lines = lines → outline.LawfulMultiple)) ∧
    ((∃ template, Template.load markers source start stop = .ok template) ↔
      Line.Parsed lines ∧ Line.Balanced 0 lines ∧
        ∀ outline : Outline, outline.lines = lines → outline.LawfulSingle) ∧
    ∀ set, TemplateSet.load markers source start stop = .ok set →
      ∃ outline : Outline, outline.lines = lines ∧ set.names.Perm outline.names := by
  have sameLines {outline : Outline}
      (found : Line.ofRange markers source start stop = .ok outline.lines) : outline.lines = lines :=
    Except.ok.inj (found.symm.trans classified)
  refine ⟨fun indented => ok_iff_of_outline (fun set success => ?_) fun outline same => ?_,
    ok_iff_of_outline (fun template success => ?_) fun outline same => ?_, fun set success => ?_⟩
  · obtain ⟨outline, found, _⟩ := TemplateSet.exists_made success
    exact ⟨outline, sameLines found⟩
  · rw [← Outline.accepts_iff_lawfulMultiple (indented outline same)]
    exact (TemplateSet.load_decided (same ▸ classified)).ok_iff
  · obtain ⟨outline, found, _⟩ := Template.exists_made success
    exact ⟨outline, sameLines found⟩
  · rw [← Outline.admitted_iff_lawfulSingle]
    exact (Template.load_decided (same ▸ classified)).ok_iff
  · obtain ⟨outline, found, _⟩ := TemplateSet.exists_made success
    have decided := TemplateSet.load_decided found
    have accepted := decided.holds set success
    have admitted := (Outline.definitions_allAdmitted_iff true).1 fun block member placed inside =>
      (accepted.1 block member placed inside).directives
    refine ⟨outline, sameLines found, ?_⟩
    rw [Outline.names_eq admitted]
    exact (decided.effect_of_ok success).1

/-- A text that defines a template in a plain region, with another one inside it. -/
def wrappedDefinition : Text :=
  ("#region plain\n#region TEMPLATE DEFINE(\"t\") FOREACH($x : $xs)\n  a\n#region\n#endregion\n" ++
    "#endregion\n#endregion\n").toList

theorem load_succeeds_iff_wrapped :
    ∃ lines, Line.ofRange .standard wrappedDefinition 0 106 = .ok lines ∧
      (∃ set, TemplateSet.load .standard wrappedDefinition 0 106 = .ok set ∧
        ∃ outline : Outline, outline.lines = lines ∧ set.names.Perm outline.names) ∧
      Line.Parsed lines ∧ Line.Balanced 0 lines ∧
      (∀ outline : Outline, outline.lines = lines → outline.LawfulMultiple) ∧
      ¬∃ template, Template.load .standard wrappedDefinition 0 106 = .ok template := by
  have flush : (Line.ofRange .standard wrappedDefinition 0 106).toOption.map
      (fun lines => lines.all fun line => !line.opens || line.indentation == 0) = some true := by
    decide +kernel
  have names : (TemplateSet.load .standard wrappedDefinition 0 106).toOption.map TemplateSet.names =
      some [['t']] := by decide +kernel
  have refused : (Template.load .standard wrappedDefinition 0 106).toOption.isNone = true := by
    decide +kernel
  obtain ⟨lines, classified, allFlush⟩ := exists_ok flush
  obtain ⟨set, loaded, _⟩ := exists_ok names
  have accepted := load_succeeds_iff classified
  have indented : ∀ outline : Outline, outline.lines = lines → outline.Indented := by
    rintro outline rfl block member _ line _ _
    obtain ⟨opens, _, among⟩ := Outline.mem_blocks member
    have zero := List.all_eq_true.1 allFlush block.opening (among _ List.mem_cons_self)
    rw [opens.opens, Bool.not_true, Bool.false_or, beq_iff_eq] at zero
    rw [zero]
    exact Nat.zero_le _
  obtain ⟨parsed, balanced, lawful⟩ := (accepted.1 indented).1 ⟨set, loaded⟩
  refine ⟨lines, classified, ⟨set, loaded, accepted.2.2 set loaded⟩, parsed, balanced, lawful, ?_⟩
  rintro ⟨template, success⟩
  rw [success] at refused
  cases refused

end Stencil
