/-
This file shows where the boundaries of a body stand: each is placed behind the pieces of the lines before the one
that it comes from.
-/
import Stencil.Proofs.Assembly.Region

namespace Stencil

namespace Placed

/-- Where the boundaries of some lines stand in a template with a base, from a count of pieces on. A line adds its
boundaries behind the pieces of the lines before it. -/
def stops (base : Nat) : Nat → List Placed → List Nat
  | _, [] => []
  | start, placed :: rest =>
      List.replicate (placed.marks base).length start ++ stops base (start + (placed.pieces base).length) rest

theorem stops_append (base start : Nat) (first second : List Placed) :
    stops base start (first ++ second) =
      stops base start first ++ stops base (start + (first.flatMap (pieces base)).length) second := by
  induction first generalizing start with
  | nil => rfl
  | cons placed rest ih =>
      rw [List.cons_append, stops, stops, ih, List.append_assoc, List.flatMap_cons, List.length_append, Nat.add_assoc]

theorem stops_singleton (base start : Nat) (placed : Placed) :
    stops base start [placed] = List.replicate (placed.marks base).length start :=
  List.append_nil _

theorem stops_length (base start : Nat) (lines : List Placed) :
    (stops base start lines).length = (lines.flatMap (marks base)).length := by
  induction lines generalizing start with
  | nil => rfl
  | cons placed rest ih =>
      rw [stops, List.length_append, List.length_replicate, ih, List.flatMap_cons, List.length_append]

/-- Each boundary of a line stands behind the pieces of the lines before it. -/
theorem stops_getElem? (base : Nat) (before : List Placed) {placed : Placed} (after : List Placed) {offset : Nat}
    (inside : offset < (placed.marks base).length) :
    (stops base 0 (before ++ placed :: after))[(before.flatMap (marks base)).length + offset]? =
      some (before.flatMap (pieces base)).length := by
  rw [stops_append, List.getElem?_append_right (by rw [stops_length]; omega), stops_length, Nat.add_sub_cancel_left,
    stops, List.getElem?_append_left (by rwa [List.length_replicate]), List.getElem?_replicate, if_pos inside,
    Nat.zero_add]

end Placed

namespace Assembly

namespace Body

/-- Where the boundaries of a body stand among its pieces. -/
def stops (body : Body) : List Nat := body.boundaries.toList.map Boundary.piece

/-- The boundaries that a body has gained stand behind the pieces that it had before. -/
def Lays (body grown : Body) : Prop :=
  ∃ count, grown.stops = body.stops ++ List.replicate count body.pieces.size

/-- A body has gained boundaries only. -/
def Turns (body grown : Body) : Prop := grown.pieces = body.pieces ∧ body.Lays grown

theorem lays_of_stops {body grown : Body} (same : grown.stops = body.stops) : body.Lays grown :=
  ⟨0, by rw [same, List.replicate_zero, List.append_nil]⟩

theorem Turns.refl (body : Body) : body.Turns body := ⟨rfl, lays_of_stops rfl⟩

theorem Turns.trans {body middle grown : Body} (first : body.Turns middle) (second : middle.Turns grown) :
    body.Turns grown := by
  obtain ⟨samePieces, count, same⟩ := first
  obtain ⟨alsoPieces, more, also⟩ := second
  refine ⟨alsoPieces.trans samePieces, count + more, ?_⟩
  rw [also, same, samePieces, List.append_assoc, List.replicate_append_replicate]

theorem turns_openRegion (body : Body) (region : Region) : body.Turns (body.openRegion region) :=
  ⟨rfl, 1, by simp [stops, openRegion, Boundary.piece]⟩

theorem turns_closeRegion (body : Body) : body.Turns body.closeRegion :=
  ⟨rfl, 1, by simp [stops, closeRegion, Boundary.piece]⟩

theorem addPiece_stops {body grown : Body} {piece : Piece} (success : body.addPiece piece = .ok grown) :
    grown.stops = body.stops := by
  unfold addPiece at success
  split at success
  · cases success
  · cases success
    rfl

/-- A site is recorded at a boundary that stands where it stood. -/
theorem addSite_stops {body grown : Body} {owner : Nat} (success : body.addSite owner = .ok grown) :
    grown.stops = body.stops := by
  unfold addSite at success
  split at success
  · cases success
  · split at success
    · next found =>
        cases success
        rw [stops, Array.toList_setIfInBounds]
        exact Boundary.map_set _ ((Array.getElem?_toList ..).trans found) rfl
    · cases success

theorem addLine_stops {body grown : Body} {entries : List (Piece × Option Nat)}
    (success : body.addLine entries = .ok grown) : grown.stops = body.stops := by
  induction entries generalizing body with
  | nil =>
      cases success
      rfl
  | cons entry rest ih =>
      obtain ⟨piece, boundary?⟩ := entry
      obtain ⟨middle, added, success⟩ := bind_ok success
      have first := addPiece_stops added
      cases boundary? with
      | none => exact (ih success).trans first
      | some owner =>
          obtain ⟨last, recorded, success⟩ := bind_ok success
          exact (ih success).trans ((addSite_stops recorded).trans first)

/-- As many boundaries are gained as there are marks. -/
theorem Lays.stops_eq {body grown : Body} (lays : body.Lays grown) {pieces : List Piece} {marks : List Mark}
    (growth : body.Grows grown pieces marks) :
    grown.stops = body.stops ++ List.replicate marks.length body.pieces.size := by
  obtain ⟨count, same⟩ := lays
  have lengths := congrArg List.length growth.marks
  have stopLengths := congrArg List.length same
  simp only [stops, Body.marks, List.length_map, List.length_append, List.length_replicate] at lengths stopLengths
  obtain rfl : count = marks.length := by omega
  exact same

/-- A body has grown by some lines, and its new boundaries stand where the lines are. -/
structure Laid (base : Nat) (lines : List Placed) (body grown : Body) : Prop where
  growth : body.Grows grown (lines.flatMap (Placed.pieces base)) (lines.flatMap (Placed.marks base))
  stops : grown.stops = body.stops ++ Placed.stops base body.pieces.size lines

theorem laid_nil (base : Nat) (body : Body) : Laid base [] body body :=
  ⟨.refl body, (List.append_nil _).symm⟩

theorem Lays.laid {base : Nat} {placed : Placed} {body grown : Body} (lays : body.Lays grown)
    (growth : body.Grows grown (placed.pieces base) (placed.marks base)) : Laid base [placed] body grown where
  growth := by rwa [List.flatMap_singleton, List.flatMap_singleton]
  stops := by rw [Placed.stops_singleton, lays.stops_eq growth]

theorem Laid.trans {base : Nat} {first second : List Placed} {body middle grown : Body}
    (earlier : Laid base first body middle) (later : Laid base second middle grown) :
    Laid base (first ++ second) body grown where
  growth := by
    rw [List.flatMap_append, List.flatMap_append]
    exact earlier.growth.trans later.growth
  stops := by
    have size := congrArg List.length earlier.growth.pieces
    rw [List.length_append, Array.length_toList, Array.length_toList] at size
    rw [later.stops, earlier.stops, Placed.stops_append, List.append_assoc, size]

end Body

namespace State

section

variable {source : Text} {state next : State} {mode : Mode} {body grown : Body} {opened : List Directive}
  {indices : List Nat} {line : Line} {isLast : Bool}

theorem addBlank_lays (hasBody : state.body? = some body) (success : state.addBlank line isLast = .ok next)
    (after : next.body? = some grown) : body.Lays grown := by
  obtain ⟨_, rfl⟩ | ⟨_, _, _, found, added, rfl⟩ := addBlank_ok success
  · cases hasBody.symm.trans after
    exact Body.lays_of_stops rfl
  · cases hasBody.symm.trans found
    cases after
    exact Body.lays_of_stops (Body.addPiece_stops added)

theorem addText_lays (hasBody : state.body? = some body) (success : state.addText line isLast = .ok next)
    (after : next.body? = some grown) : body.Lays grown := by
  obtain ⟨_, rfl⟩ | ⟨_, _, _, _, _, found, _, added, rfl⟩ := addText_ok success
  · cases hasBody.symm.trans after
    exact Body.lays_of_stops rfl
  · cases hasBody.symm.trans found
    cases after
    exact Body.lays_of_stops (Body.addLine_stops added)

/-- The directives of a line open their regions behind the pieces of the body. -/
theorem Inside.enterAll_turns (inside : state.Inside mode body opened indices) (fits : body.base ≤ line.indentation)
    {directives : List Directive} (success : state.enterAll line directives = .ok next)
    (after : next.body? = some grown) : body.Turns grown := by
  induction directives generalizing state body opened indices with
  | nil =>
      cases success
      cases inside.hasBody.symm.trans after
      exact .refl _
  | cons directive rest ih =>
      obtain ⟨middle, entered, success⟩ := bind_ok success
      obtain ⟨region, _, insideMiddle, _⟩ := (inside.enter_decided [] fits directive).effect_of_ok entered
      exact (body.turns_openRegion region).trans (ih insideMiddle fits success)

/-- The regions of some directives close behind the pieces of the body, if it is left. -/
theorem exitAll_turns {directives : List Directive} (hasBody : state.body? = some body)
    (success : state.exitAll source directives = .ok next) (after : next.body? = some grown) : body.Turns grown := by
  induction directives generalizing state body with
  | nil =>
      cases success
      cases hasBody.symm.trans after
      exact .refl _
  | cons directive rest ih =>
      obtain ⟨middle, _, exited, others⟩ := exitAll_cons_ok success
      cases exit_ok exited with
      | define =>
          -- Behind a definition no other directive can close.
          cases rest with
          | nil =>
              cases others
              cases after
          | cons other more =>
              obtain ⟨_, _, exited, _⟩ := exitAll_cons_ok others
              obtain ⟨_, hasBody⟩ := (exit_ok exited).hasBody
              cases hasBody
      | replace _ _ found | foreach _ found | insert _ found =>
          cases hasBody.symm.trans found
          exact body.turns_closeRegion.trans (ih rfl others)

/-- The last directive to close is a definition, which finishes the body with the regions of the others closed. -/
theorem exitAll_definition {directive : Directive} {rest : List Directive} {name : Text}
    (hasBody : state.body? = some body) (instruction : directive.instruction = .define name)
    (success : state.exitAll source (directive :: rest).reverse = .ok next) :
    ∃ (set : TemplateSet) (grown : Body), next.finished = set.insert name (grown.template source) ∧
      body.Turns grown := by
  rw [List.reverse_cons, exitAll_append] at success
  obtain ⟨middle, others, success⟩ := bind_ok success
  obtain ⟨_, _, exited, same⟩ := exitAll_cons_ok success
  cases same
  cases exit_ok exited with
  | define defines _ found =>
      cases instruction.symm.trans defines
      exact ⟨middle.finished, _, rfl, exitAll_turns hasBody others found⟩
  | replace other | foreach other | insert other => cases instruction.symm.trans other

/-- The boundaries that a line gives to a body stand behind the pieces that it had before. -/
theorem Inside.step_lays (inside : state.Inside mode body opened indices)
    (success : state.step source line isLast = .ok next) (after : next.body? = some grown) : body.Lays grown := by
  cases step_ok success with
  | empty _ added => exact addBlank_lays inside.hasBody added after
  | regular _ added => exact addText_lays inside.hasBody added after
  | opening _ added => exact addText_lays (inside.withFrames _).hasBody added after
  | directives _ _ checked opened =>
      have fits := (inside.checkIndentation_decided line).holds _ checked
      exact (inside.enterAll_turns fits opened after).2
  | plainEnd _ _ _ added => exact addText_lays (inside.withFrames _).hasBody added after
  | closing _ _ _ _ exited => exact (exitAll_turns (inside.withFrames _).hasBody exited after).2

/-- The boundaries that an outline gives to a body stand where its lines are. -/
theorem Inside.run_laid (inside : state.Inside mode body opened indices) {outline : Outline}
    (formed : ∀ line ∈ outline.lines, line.Formed) {atEnd : Bool}
    (success : state.run source atEnd outline.lines = .ok next) (after : next.body? = some grown) :
    Body.Laid body.base (outline.placed opened atEnd) body grown := by
  induction outline generalizing state next body grown opened indices atEnd with
  | done =>
      cases success
      cases inside.hasBody.symm.trans after
      exact Body.laid_nil _ _
  | plain line between rest ih =>
      rw [Outline.lines_plain, run, ← rest.isDone_iff] at success
      obtain ⟨_, stepped, success⟩ := bind_ok success
      obtain ⟨middle, rfl, sound, growth⟩ := (inside.step_plain_decided source (formed line List.mem_cons_self)
        between _).effect_of_ok stepped
      have first := (inside.step_lays stepped rfl).laid growth
      have later := ih (inside.grow sound growth) (fun other member => formed other (.tail _ member)) success after
      rw [growth.base] at later
      exact first.trans later
  | region opening directives opens within closing closes rest withinIh restIh =>
      obtain ⟨formedOpening, formedWithin, formedClosing, formedRest⟩ :=
        Outline.forall_mem_lines_region.1 formed
      rw [run_region] at success
      obtain ⟨entered, stepped, success⟩ := bind_ok success
      obtain ⟨left, ran, success⟩ := bind_ok success
      obtain ⟨_, closed, success⟩ := bind_ok success
      obtain ⟨begun, inner, insideEntered, growth, closings⟩ :=
        (inside.step_opening_decided source formedOpening opens).effect_of_ok stepped
      have first := (inside.step_lays stepped insideEntered.hasBody).laid growth
      obtain ⟨last, rfl, soundLast, growthLast⟩ :=
        (insideEntered.run_decided source within formedWithin false).effect_of_ok ran
      have second := withinIh insideEntered formedWithin ran rfl
      obtain ⟨final, rfl, soundFinal, growthFinal⟩ := (closings last _ _ closing _ growthLast soundLast closes
        formedClosing).effect_of_ok closed
      have third := ((insideEntered.grow soundLast growthLast).step_lays closed rfl).laid growthFinal
      rw [growth.base] at second
      have whole := growth.trans (growthLast.trans growthFinal)
      have fourth := restIh (inside.grow soundFinal whole) formedRest success after
      rw [whole.base] at fourth
      exact first.trans (second.trans (third.trans fourth))

end

end State

end Assembly

end Stencil
