/-
This file shows that a load reads its range only: it is the load of the slice, moved to where the slice
stands.
-/
import Stencil.Proofs.Load.Safety
import Stencil.Proofs.Move.Assembly

namespace Stencil

namespace Move

variable (move : Move) (source : Text)

theorem state_single : move.state source Assembly.State.single = .single := by
  simp [Move.state, Move.body, Assembly.State.single]
  rfl

theorem state_multiple : move.state source Assembly.State.multiple = .multiple := rfl

end Move

namespace Recogniser

variable {recogniser : Recogniser} {source text : Text} {start stop : Nat}

/-- A slice that is a source of its own has its lines where the range has them, but for the move. -/
theorem lines_moved (cut : Text.slice? source start stop = some text) :
    recogniser.lines source start stop =
      bimap (Move.error ⟨0, start⟩) (List.map (Move.line ⟨0, start⟩))
        (recogniser.lines text 0 (Text.byteSize text)) := by
  have moved := Move.classifyFrom_moved ⟨0, start⟩ recogniser (Line.Draft.fresh 0 0) text
  rw [lines, lines, cut, Text.slice?_whole]
  refine Eq.trans ?_ moved
  have place : Move.draft ⟨0, start⟩ (Line.Draft.fresh 0 0) = Line.Draft.fresh 0 start := by
    simp [Move.draft, Line.Draft.fresh]
  rw [place]
  rfl

theorem finalState_moved (cut : Text.slice? source start stop = some text)
    (state : Assembly.State) :
    recogniser.finalState (Move.state ⟨0, start⟩ source state) source start stop =
      bimap (Move.stop ⟨0, start⟩) (Move.state ⟨0, start⟩ source)
        (recogniser.finalState state text 0 (Text.byteSize text)) := by
  have refused : (recogniser.lines source start stop).mapError Stop.refused =
      bimap (Move.stop ⟨0, start⟩) (List.map (Move.line ⟨0, start⟩))
        ((recogniser.lines text 0 (Text.byteSize text)).mapError .refused) := by
    rw [lines_moved cut]
    cases recogniser.lines text 0 (Text.byteSize text) <;> rfl
  refine bimap_bind refused fun lines _ => ?_
  rw [Assembly.State.walk_eq_run, Assembly.State.walk_eq_run]
  exact bimap_bind (Move.run_moved _ _ _ _ _ _) fun final _ => Move.finish_state_moved _ _ _

/-- A range that is one template is the template of its slice, moved into the source. -/
theorem template_moved (cut : Text.slice? source start stop = some text) :
    recogniser.template source start stop =
      (recogniser.template text 0 (Text.byteSize text)).map (Move.template ⟨0, start⟩ source) := by
  rw [← bimap_eq_map (Move.stop_right start)]
  have moved := @finalState_moved recogniser _ _ _ _ cut .single
  rw [Move.state_single] at moved
  exact bimap_bind moved fun final _ => bimap_bind (Move.body_moved _ _ _) fun body _ => rfl

theorem templates_moved (cut : Text.slice? source start stop = some text) :
    recogniser.templates source start stop =
      (recogniser.templates text 0 (Text.byteSize text)).map
        (TemplateSet.map (Move.template ⟨0, start⟩ source)) := by
  rw [← bimap_eq_map (Move.stop_right start)]
  have moved := @finalState_moved recogniser _ _ _ _ cut .multiple
  rw [Move.state_multiple] at moved
  exact bimap_bind moved fun final _ => rfl

/-- Outside its source a range is refused with its bounds, and inside it is not. -/
theorem refuses_range_iff {Result : Type} {outcome : Except Stop Result}
    (inside : ∀ text, Text.slice? source start stop = some text → Safe outcome fun _ => True)
    (outside : Text.slice? source start stop = none →
      outcome = .error (.refused (.range start stop (Text.byteSize source)))) :
    outcome = .error (.refused (.range start stop (Text.byteSize source))) ↔
      ¬Text.IsRange source start stop := by
  rw [← Text.exists_slice?_iff]
  constructor
  · rintro refused ⟨text, cut⟩
    obtain ⟨error, place, same, placed⟩ := (inside text cut).located _ refused
    cases same
    cases placed
  · intro none
    refine outside (Option.eq_none_iff_forall_ne_some.2 fun text cut => none ⟨text, cut⟩)

end Recogniser

/-- A load is refused with the bounds of its range exactly if these are no range of the source. Otherwise it
is the load of the slice as a source of its own, with the same refusals, and with its templates moved to where
the slice stands. -/
theorem load_is_local (recogniser : Recogniser) (source : Text) (start stop : Nat) :
    (recogniser.template source start stop =
        .error (.refused (.range start stop (Text.byteSize source))) ↔
      ¬Text.IsRange source start stop) ∧
    (recogniser.templates source start stop =
        .error (.refused (.range start stop (Text.byteSize source))) ↔
      ¬Text.IsRange source start stop) ∧
    (Text.IsRange source start stop → ∃ text, Text.slice? source start stop = some text ∧
      recogniser.template source start stop =
        (recogniser.template text 0 (Text.byteSize text)).map (Move.template ⟨0, start⟩ source) ∧
      recogniser.templates source start stop =
        (recogniser.templates text 0 (Text.byteSize text)).map
          (TemplateSet.map (Move.template ⟨0, start⟩ source))) := by
  refine ⟨Recogniser.refuses_range_iff (fun _ cut => Recogniser.template_safe cut)
      Recogniser.template_outside,
    Recogniser.refuses_range_iff (fun _ cut => Recogniser.templates_safe cut)
      Recogniser.templates_outside, fun isRange => ?_⟩
  obtain ⟨text, cut⟩ := Text.exists_slice?_iff.2 isRange
  exact ⟨text, cut, Recogniser.template_moved cut, Recogniser.templates_moved cut⟩

/-- A text with a replacement between a line with a wide character and a line that no load takes. -/
def enclosedReplacement : Text :=
  "é\n#region TEMPLATE REPLACE(`a`, $x)\n  ba\n#endregion\n\t#endregion".toList

theorem load_is_local_enclosed :
    (∃ template, Template.load .standard enclosedReplacement 3 53 = .ok template ∧
      template.source = enclosedReplacement ∧
      template.pieces.toList.map (fun piece => (piece.start, piece.stop)) = [(39, 40), (40, 41)]) ∧
    (∃ text template, Text.slice? enclosedReplacement 3 53 = some text ∧
      Template.load .standard text 0 50 = .ok template ∧
      template.pieces.toList.map (fun piece => (piece.start, piece.stop)) = [(36, 37), (37, 38)]) ∧
    Template.load .standard enclosedReplacement 1 53 = .error (.refused (.range 1 53 64)) ∧
    TemplateSet.load .standard enclosedReplacement 1 53 = .error (.refused (.range 1 53 64)) := by
  have spans : (Template.load .standard enclosedReplacement 3 53).toOption.map
      (fun template => template.pieces.toList.map fun piece => (piece.start, piece.stop)) =
        some [(39, 40), (40, 41)] := by decide +kernel
  have cut : (Text.slice? enclosedReplacement 3 53).isSome = true := by decide +kernel
  have outside : Text.slice? enclosedReplacement 1 53 = none := by decide +kernel
  have size : Text.byteSize enclosedReplacement = 64 := by decide +kernel
  have isRange := Text.exists_slice?_iff.1 (Option.isSome_iff_exists.1 cut)
  have noRange : ¬Text.IsRange enclosedReplacement 1 53 := fun isRange => by
    obtain ⟨text, found⟩ := Text.exists_slice?_iff.2 isRange
    rw [outside] at found
    cases found
  obtain ⟨template, loaded, places⟩ := exists_ok spans
  have inside := load_is_local Markers.standard.recogniser enclosedReplacement 3 53
  have refused := load_is_local Markers.standard.recogniser enclosedReplacement 1 53
  rw [size] at refused
  obtain ⟨text, same, single, _⟩ := inside.2.2 isRange
  have length : Text.byteSize text = 50 := by
    have stops := (Text.slice?_eq_some_iff.1 same).2
    omega
  rw [length] at single
  obtain ⟨alone, loadedAlone, rfl⟩ := map_ok (single.symm.trans loaded)
  refine ⟨⟨_, loaded, rfl, places⟩, ⟨text, alone, same, loadedAlone, ?_⟩, refused.1.2 noRange,
    refused.2.1.2 noRange⟩
  have moved : alone.pieces.toList.map (fun piece => (piece.start + 3, piece.stop + 3)) =
      [(39, 40), (40, 41)] := by
    rw [← places]
    simp [Move.template, Move.piece, Piece.stop, Nat.add_right_comm]
  have back := congrArg (List.map fun span => (span.1 - 3, span.2 - 3)) moved
  simpa [Function.comp_def] using back

end Stencil
