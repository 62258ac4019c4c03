/-
This file runs over the lines of two texts side by side, and shows that alike lines lead from alike states to
alike states.
-/
import Stencil.Proofs.Assembly.Atop
import Stencil.Proofs.Pairing.Basic

namespace Stencil.Pairing

open Assembly

variable {pairing : Pairing}

section

variable {body other : Body}

theorem Pieces.blank (start otherStart : Nat) :
    pairing.Pieces ⟨start, [], none, true, none⟩ ⟨otherStart, [], none, true, none⟩ :=
  ⟨rfl, rfl, rfl, pairing.plain⟩

theorem startLine_alike (indentation : Nat) {pieces others : List Piece}
    (alike : List.Forall₂ pairing.Pieces pieces others) :
    List.Forall₂ pairing.Pieces (startLine indentation pieces) (startLine indentation others) := by
  cases alike with
  | nil => exact .nil
  | cons first rest => exact .cons ⟨first.text, rfl, first.startsNewLine, first.groups⟩ rest

theorem endLine_alike {pieces others : List Piece} (alike : List.Forall₂ pairing.Pieces pieces others) :
    List.Forall₂ pairing.Pieces (endLine pieces) (endLine others) := by
  induction alike with
  | nil => exact .nil
  | @cons piece pair rest pairs first others ih =>
      cases others with
      | nil => exact .cons ⟨first.text, first.indentation?, rfl, first.groups⟩ .nil
      | cons second more => exact .cons first ih

theorem Bodies.size (alike : pairing.Bodies body other) : other.pieces.size = body.pieces.size := by
  simpa using alike.pieces.length_eq.symm

theorem Bodies.openRegion (alike : pairing.Bodies body other) (region : Region) :
    pairing.Bodies (body.openRegion region) (other.openRegion region) where
  name := alike.name
  base := alike.base
  boundaries := by
    rw [Body.openRegion, Body.openRegion, alike.boundaries, alike.siteCount, alike.size]
  siteCount := alike.siteCount
  pieces := alike.pieces

theorem Bodies.closeRegion (alike : pairing.Bodies body other) :
    pairing.Bodies body.closeRegion other.closeRegion where
  name := alike.name
  base := alike.base
  boundaries := by
    rw [Body.closeRegion, Body.closeRegion, alike.boundaries, alike.siteCount, alike.size]
  siteCount := alike.siteCount
  pieces := alike.pieces

theorem Bodies.addPiece (alike : pairing.Bodies body other) {piece pair : Piece}
    (pieces : pairing.Pieces piece pair) :
    pairing.Outcomes pairing.Bodies (body.addPiece piece) (other.addPiece pair) := by
  rw [Body.addPiece, Body.addPiece, pieces.text]
  split
  · exact .error rfl
  · refine .ok { alike with pieces := ?_ }
    rw [Array.toList_push, Array.toList_push]
    exact List.rel_append alike.pieces (.cons pieces .nil)

theorem Bodies.addSite (alike : pairing.Bodies body other) (boundary : Nat) :
    pairing.Outcomes pairing.Bodies (body.addSite boundary) (other.addSite boundary) := by
  have empty : other.pieces.isEmpty = body.pieces.isEmpty := by
    rw [Array.isEmpty, Array.isEmpty, alike.size]
  rw [Body.addSite, Body.addSite, empty, alike.size, alike.boundaries, alike.siteCount]
  split
  · exact .error rfl
  · split
    · exact .ok { alike with boundaries := rfl, siteCount := rfl }
    · exact .error rfl

theorem Bodies.addLine (alike : pairing.Bodies body other) {pieces pairs : List Piece}
    (same : List.Forall₂ pairing.Pieces pieces pairs) (boundaries : List (Option Nat)) :
    pairing.Outcomes pairing.Bodies (body.addLine (pieces.zip boundaries))
      (other.addLine (pairs.zip boundaries)) := by
  induction same generalizing body other boundaries with
  | nil => exact .ok alike
  | @cons piece pair rest others first later ih =>
      cases boundaries with
      | nil => exact .ok alike
      | cons boundary? boundaries =>
          refine (alike.addPiece first).bind fun grown otherGrown alike => ?_
          cases boundary? with
          | none => exact ih alike boundaries
          | some boundary => exact (alike.addSite boundary).bind fun _ _ alike => ih alike boundaries

theorem Bodies.template (alike : pairing.Bodies body other) :
    pairing.Templates (body.template pairing.source) (other.template pairing.other) :=
  ⟨rfl, rfl, alike.boundaries, alike.siteCount, alike.pieces⟩

end

section

variable {set other : TemplateSet}

theorem insertEntry_alike {entries others : List (Text × Template)}
    (alike : List.Forall₂ (fun entry pair => pair.1 = entry.1 ∧ pairing.Templates entry.2 pair.2) entries
      others) (name : Text) {template pair : Template} (templates : pairing.Templates template pair) :
    List.Forall₂ (fun entry pair => pair.1 = entry.1 ∧ pairing.Templates entry.2 pair.2)
      (TemplateSet.insertEntry name template entries) (TemplateSet.insertEntry name pair others) := by
  induction alike with
  | nil => exact .cons ⟨rfl, templates⟩ .nil
  | cons first later ih =>
      rw [TemplateSet.insertEntry, TemplateSet.insertEntry, first.1]
      split
      · exact .cons ⟨rfl, templates⟩ (.cons first later)
      · split
        · exact .cons ⟨rfl, templates⟩ later
        · exact .cons first ih

theorem Sets.insert (alike : pairing.Sets set other) (name : Text) {template pair : Template}
    (templates : pairing.Templates template pair) :
    pairing.Sets (set.insert name template) (other.insert name pair) :=
  insertEntry_alike alike name templates

theorem Sets.names (alike : pairing.Sets set other) : other.names = set.names :=
  map_eq_map alike fun _ _ same => same.1

theorem Sets.contains (alike : pairing.Sets set other) (name : Text) :
    other.contains name = set.contains name := by
  rw [Bool.eq_iff_iff, TemplateSet.contains_iff, TemplateSet.contains_iff, alike.names]

end

section

variable {state other : State} {line pair : Line}

theorem States.withBody (alike : pairing.States state other) {body grown : Body}
    (bodies : pairing.Bodies body grown) :
    pairing.States (state.withBody body) (other.withBody grown) :=
  { alike with body := .some bodies }

/-- Either there is a body in both loads or in none. -/
theorem States.body_cases (alike : pairing.States state other) :
    (state.body? = none ∧ other.body? = none) ∨
      ∃ body grown, state.body? = some body ∧ other.body? = some grown ∧ pairing.Bodies body grown := by
  have bodies := alike.body
  cases here : state.body? with
  | none => exact .inl ⟨rfl, eq_none_of_rel_none (here ▸ bodies)⟩
  | some body =>
      obtain ⟨grown, there, bodies⟩ := exists_of_rel_some (here ▸ bodies)
      exact .inr ⟨body, grown, rfl, there, bodies⟩

theorem States.body_alike (alike : pairing.States state other) :
    pairing.Outcomes pairing.Bodies state.body other.body := by
  rw [State.body, State.body]
  rcases alike.body_cases with ⟨here, there⟩ | ⟨body, grown, here, there, bodies⟩
  · rw [here, there]
    exact .error rfl
  · rw [here, there]
    exact .ok bodies

/-- The line of the second load has the number of the first, and more columns before it. -/
structure Columns (pairing : Pairing) (line pair : Line) : Prop where
  number : pair.number = line.number
  indentation : pair.indentation = line.indentation + pairing.columns

theorem States.body_isSome (alike : pairing.States state other) :
    other.body?.isSome = state.body?.isSome := by
  rcases alike.body_cases with ⟨here, there⟩ | ⟨_, _, here, there, _⟩
  · rw [here, there]
  · rw [here, there]
    rfl

/-- Inside a body the columns do not change the indentation of a line over the base. -/
theorem States.relativeIndentation_alike (alike : pairing.States state other)
    (columns : pairing.Columns line pair) :
    pairing.Outcomes (fun indentation same => state.body?.isSome = true → same = indentation)
      (state.relativeIndentation line) (other.relativeIndentation pair) := by
  rw [State.relativeIndentation, State.relativeIndentation]
  rcases alike.body_cases with ⟨here, there⟩ | ⟨body, grown, here, there, bodies⟩
  · rw [here, there]
    exact .ok nofun
  · rw [here, there, columns.number, columns.indentation]
    simp only [Option.map_some, Option.getD_some, bodies.base, Nat.add_le_add_iff_right,
      Nat.add_sub_add_right]
    split
    · exact .ok fun _ => rfl
    · exact .error rfl

theorem States.checkIndentation_alike (alike : pairing.States state other)
    (columns : pairing.Columns line pair) :
    pairing.Outcomes (fun _ _ => True) (state.checkIndentation line) (other.checkIndentation pair) := by
  rw [State.checkIndentation, State.checkIndentation, alike.body_isSome]
  split
  · exact (alike.relativeIndentation_alike columns).bind fun _ _ _ => .ok trivial
  · exact .ok trivial

theorem States.addBlank_alike (alike : pairing.States state other) (line pair : Line) (isLast : Bool) :
    pairing.Outcomes pairing.States (state.addBlank line isLast) (other.addBlank pair isLast) := by
  rw [State.addBlank, State.addBlank]
  split
  · exact .ok alike
  · rcases alike.body_cases with ⟨here, there⟩ | ⟨body, grown, here, there, bodies⟩
    · rw [here, there]
      exact .ok alike
    · rw [here, there]
      exact (bodies.addPiece (Pieces.blank line.start pair.start)).bind fun _ _ bodies =>
        .ok (alike.withBody bodies)

theorem States.addText_alike (alike : pairing.States state other) (lines : pairing.Lines line pair)
    (notEmpty : line.kind ≠ .empty) (isLast : Bool) :
    pairing.Outcomes pairing.States (state.addText line isLast) (other.addText pair isLast) := by
  rw [State.addText, State.addText, alike.insideInsert, alike.replacements]
  rcases alike.body_cases with ⟨here, there⟩ | ⟨body, grown, here, there, bodies⟩
  · rw [here, there]
    exact .ok alike
  · -- The base has the columns too, so the pieces have one indentation in both bodies.
    have columns : pairing.Columns line pair := ⟨lines.number, lines.indentation notEmpty⟩
    have inside : state.body?.isSome = true := by rw [here]; rfl
    obtain ⟨boundaries, pieces⟩ := lines.segments notEmpty state.replacements alike.known
    rw [here, there]
    dsimp only
    split
    · exact .ok alike
    · rw [boundaries]
      refine (alike.relativeIndentation_alike columns).bind fun indentation _ same => ?_
      rw [same inside]
      refine (bodies.addLine ?_ _).bind fun _ _ bodies => .ok (alike.withBody bodies)
      have starts := startLine_alike indentation pieces
      split
      · exact starts
      · exact endLine_alike starts

/-- A directive of the second load has the columns of the first and some more. -/
theorem States.enter_alike (alike : pairing.States state other) (columns : pairing.Columns line pair)
    {directive : Directive}
    (known : ∀ pattern, directive.pattern? = some pattern → pairing.known pattern) :
    pairing.Outcomes pairing.States (state.enter line directive)
      (other.enter pair (directive.indent pairing.columns)) := by
  have expects : other.expectsDefine = state.expectsDefine := by
    rw [State.expectsDefine, State.expectsDefine, alike.mode, alike.depth]
  have instruction : (directive.indent pairing.columns).instruction = directive.instruction := rfl
  rw [State.enter, State.enter, expects, instruction]
  split
  · exact .error rfl
  · split
    · next name _ =>
        rw [alike.finished.contains]
        split
        · exact .error rfl
        · split
          · exact .error rfl
          · split
            · exact .error rfl
            · exact .ok (alike.withBody ⟨rfl, columns.indentation, rfl, rfl, .nil⟩)
    · rw [alike.insideInsert]
      split
      · exact .error rfl
      · exact alike.body_alike.bind fun _ _ bodies => .ok (alike.withBody (bodies.openRegion _))
    · next text field flags found =>
        rw [alike.insideInsert]
        split
        · exact .error rfl
        · cases compiled : Pattern.compile? text with
          | none => exact .error rfl
          | some pattern =>
              refine alike.body_alike.bind fun body grown bodies => .ok ?_
              have knows : pairing.known pattern :=
                known pattern (by rw [Directive.pattern?, found]; exact compiled)
              refine { alike.withBody (bodies.openRegion (.replace field flags #[])) with
                replacements := ?_, known := ?_ }
              · rw [alike.replacements, bodies.boundaries]
              · intro replacement member
                rcases List.mem_append.1 member with earlier | last
                · exact alike.known replacement earlier
                · rw [List.mem_singleton.1 last]
                  exact knows
    · rw [alike.insideInsert]
      split
      · exact .error rfl
      · refine (alike.relativeIndentation_alike columns).bind fun indentation _ same => ?_
        rw [State.body, State.body]
        rcases alike.body_cases with ⟨here, there⟩ | ⟨body, grown, here, there, bodies⟩
        · rw [here, there]
          exact .error rfl
        · rw [here, there, same (by rw [here]; rfl)]
          exact .ok { alike.withBody (bodies.openRegion _) with insideInsert := rfl }

theorem States.enterAll_alike (alike : pairing.States state other) (columns : pairing.Columns line pair)
    {directives : List Directive}
    (known : ∀ directive ∈ directives, ∀ pattern, directive.pattern? = some pattern →
      pairing.known pattern) :
    pairing.Outcomes pairing.States (state.enterAll line directives)
      (other.enterAll pair (directives.map (Directive.indent pairing.columns))) := by
  induction directives generalizing state other with
  | nil => exact .ok alike
  | cons directive rest ih =>
      obtain ⟨here, later⟩ := List.forall_mem_cons.1 known
      refine (alike.enter_alike columns here).bind fun next following alike => ?_
      exact ih { alike with depth := congrArg (· + 1) alike.depth } later

theorem States.closeRegion_alike (alike : pairing.States state other) :
    pairing.Outcomes pairing.States state.closeRegion other.closeRegion :=
  alike.body_alike.bind fun _ _ bodies => .ok (alike.withBody bodies.closeRegion)

theorem States.exit_alike (alike : pairing.States state other) (directive : Directive) :
    pairing.Outcomes pairing.States (state.exit pairing.source directive)
      (other.exit pairing.other (directive.indent pairing.columns)) := by
  have instruction : (directive.indent pairing.columns).instruction = directive.instruction := rfl
  have empty : other.replacements.isEmpty = state.replacements.isEmpty := by rw [alike.replacements]
  rw [State.exit, State.exit, instruction, empty]
  split
  · next name _ =>
      split
      · exact .error rfl
      · exact alike.body_alike.bind fun body grown bodies => .ok
          { alike with body := .none, finished := alike.finished.insert name bodies.template }
  · split
    · exact .error rfl
    · have shorter : pairing.States { state with replacements := state.replacements.dropLast }
          { other with replacements := other.replacements.dropLast } :=
        { alike with
          replacements := congrArg List.dropLast alike.replacements
          known := fun replacement member =>
            alike.known replacement (List.dropLast_subset _ member) }
      exact shorter.closeRegion_alike
  · exact alike.closeRegion_alike
  · have left : pairing.States { state with insideInsert := false } { other with insideInsert := false } :=
      { alike with insideInsert := rfl }
    exact left.closeRegion_alike

theorem States.exitAll_alike (alike : pairing.States state other) (directives : List Directive) :
    pairing.Outcomes pairing.States (state.exitAll pairing.source directives)
      (other.exitAll pairing.other (directives.map (Directive.indent pairing.columns))) := by
  induction directives generalizing state other with
  | nil => exact .ok alike
  | cons directive rest ih =>
      rw [List.map_cons, State.exitAll, State.exitAll, alike.depth]
      split
      · exact .error rfl
      · have higher : pairing.States { state with depth := state.depth - 1 }
            { other with depth := state.depth - 1 } := { alike with depth := rfl }
        exact (higher.exit_alike directive).bind fun _ _ alike => ih alike

theorem States.pushFrame (alike : pairing.States state other) (columns : pairing.Columns line pair)
    (directives : List Directive) :
    pairing.States (state.pushFrame line directives)
      (other.pushFrame pair (directives.map (Directive.indent pairing.columns))) :=
  { alike with
    frames := by
      rw [State.pushFrame, State.pushFrame, columns.number, columns.indentation, alike.frames]
      rfl }

/-- Two alike lines lead from alike states to alike states. -/
theorem States.step_alike (alike : pairing.States state other) (lines : pairing.Lines line pair)
    (known : ∀ directive ∈ line.directives, ∀ pattern, directive.pattern? = some pattern →
      pairing.known pattern) (isLast : Bool) :
    pairing.Outcomes pairing.States (state.step pairing.source line isLast)
      (other.step pairing.other pair isLast) := by
  have columns (notEmpty : line.kind ≠ .empty) : pairing.Columns line pair :=
    ⟨lines.number, lines.indentation notEmpty⟩
  rw [State.step, State.step]
  cases lines.kind with
  | empty kind otherKind =>
      rw [kind, otherKind]
      exact alike.addBlank_alike line pair isLast
  | regular kind otherKind =>
      rw [kind, otherKind]
      exact alike.addText_alike lines (by simp [kind]) isLast
  | opening kind otherKind =>
      have pushed := alike.pushFrame (columns (by simp [kind])) []
      rw [kind, otherKind]
      exact pushed.addText_alike lines (by simp [kind]) isLast
  | @directives start otherStart tokens otherTokens kind otherKind parsed =>
      have shifted := columns (by simp [kind])
      rw [kind, otherKind]
      dsimp only
      rw [parsed]
      cases success : Directive.parse line.number line.start tokens with
      | error stop => exact .error rfl
      | ok directives =>
          rw [Line.Opens.directives_eq (.directed kind success)] at known
          refine (alike.checkIndentation_alike shifted).bind fun _ _ _ => ?_
          exact (alike.enterAll_alike shifted known).bind fun _ _ alike =>
            .ok (alike.pushFrame shifted directives)
  | closing kind otherKind =>
      have shifted := columns (by simp [kind])
      rw [kind, otherKind, alike.frames]
      dsimp only
      cases found : state.frames with
      | nil =>
          rw [shifted.number, shifted.indentation]
          exact .error rfl
      | cons frame frames =>
          have left : pairing.States { state with frames }
              { other with frames := frames.map (Frame.indent pairing.columns) } :=
            { alike with frames := rfl }
          have empty : (frame.indent pairing.columns).directives.isEmpty = frame.directives.isEmpty :=
            List.isEmpty_map
          rw [List.map_cons]
          dsimp only
          rw [empty]
          split
          · exact left.addText_alike lines (by simp [kind]) isLast
          · have reversed : (frame.indent pairing.columns).directives.reverse =
                frame.directives.reverse.map (Directive.indent pairing.columns) := List.map_reverse.symm
            rw [reversed]
            exact (left.checkIndentation_alike shifted).bind fun _ _ _ =>
              left.exitAll_alike frame.directives.reverse

/-- Alike lines lead from alike states to alike states. -/
theorem States.run_alike (alike : pairing.States state other) {lines pairs : List Line}
    (same : List.Forall₂ pairing.Lines lines pairs)
    (known : ∀ directive ∈ lines.flatMap Line.directives, ∀ pattern,
      directive.pattern? = some pattern → pairing.known pattern) (atEnd : Bool) :
    pairing.Outcomes pairing.States (state.run pairing.source atEnd lines)
      (other.run pairing.other atEnd pairs) := by
  induction same generalizing state other with
  | nil => exact .ok alike
  | @cons line pair rest others first later ih =>
      rw [List.flatMap_cons, List.forall_mem_append] at known
      have last : others.isEmpty = rest.isEmpty := by
        cases later <;> rfl
      rw [State.run, State.run, last]
      exact (alike.step_alike first known.1 _).bind fun _ _ alike => ih alike known.2

theorem States.finish_alike (alike : pairing.States state other) :
    pairing.Outcomes pairing.States state.finish other.finish := by
  rw [State.finish, State.finish, alike.frames]
  cases state.frames with
  | nil => exact .ok alike
  | cons frame frames => exact .error rfl

end

end Stencil.Pairing
