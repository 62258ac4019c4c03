/-
This file shows that a load never breaks an invariant of the loader, whatever the source and the range are:
it gives its result or refuses the input, and all slices that it takes exist.
-/
import Stencil.Proofs.Assembly.Coherent
import Stencil.Proofs.Line.Places
import Stencil.Proofs.Load.Basic

namespace Stencil

/-- A text is refused at a place when its lines are classified. -/
theorem Line.classify_located {recogniser : Recogniser} {start : Nat} {text : Text} {error : Error}
    (failure : recogniser.classify start text = .error error) : ∃ place, error.place? = some place := by
  obtain ⟨place, _, rfl, _⟩ := classify_error_iff.1 failure
  exact ⟨place, rfl⟩

namespace Recogniser

variable {recogniser : Recogniser} {source : Text} {start stop : Nat}

/-- Inside its source a range is walked over safely. -/
theorem finalState_safe {text : Text} (cut : Text.slice? source start stop = some text)
    {state : Assembly.State} (coherent : state.Coherent) :
    Safe (recogniser.finalState state source start stop) fun final => final.frames = [] := by
  cases classified : recogniser.lines source start stop with
  | error error =>
      rw [finalState, classified]
      rw [lines, cut] at classified
      obtain ⟨place, placed⟩ := Line.classify_located classified
      exact .of_error rfl placed
  | ok lines =>
      have safe := coherent.walk_safe fun line member =>
        ⟨(lines_formed classified line member).1, Line.sliced_of_lines classified line member⟩
      rw [finalState, classified]
      exact safe.bind fun final _ => final.finish_safe

/-- Inside its source a range loads as one template or is refused at a place. -/
theorem template_safe {text : Text} (cut : Text.slice? source start stop = some text) :
    Safe (recogniser.template source start stop) fun _ => True where
  effect _ _ := trivial
  located fault failure := by
    cases loaded : recogniser.finalState .single source start stop with
    | error other =>
        rw [template, loaded] at failure
        cases failure
        exact (finalState_safe cut Assembly.State.coherent_single).located _ loaded
    | ok final =>
        obtain ⟨outline, classified, _⟩ := Assembly.State.exists_outline rfl loaded
        exact (Template.load_decided classified).located fault failure

/-- Inside its source a range loads as templates or is refused at a place. -/
theorem templates_safe {text : Text} (cut : Text.slice? source start stop = some text) :
    Safe (recogniser.templates source start stop) fun _ => True :=
  (finalState_safe cut Assembly.State.coherent_multiple).bind fun _ _ => .of_ok rfl trivial

/-- A range that is no slice of its source is refused with its bounds. -/
theorem finalState_outside (outside : Text.slice? source start stop = none) (state : Assembly.State) :
    recogniser.finalState state source start stop =
      .error (.refused (.range start stop (Text.byteSize source))) := by
  rw [finalState, lines, outside]
  rfl

theorem template_outside (outside : Text.slice? source start stop = none) :
    recogniser.template source start stop =
      .error (.refused (.range start stop (Text.byteSize source))) := by
  rw [template, finalState_outside outside]
  rfl

theorem templates_outside (outside : Text.slice? source start stop = none) :
    recogniser.templates source start stop =
      .error (.refused (.range start stop (Text.byteSize source))) := by
  rw [templates, finalState_outside outside]
  rfl

/-- No load breaks an invariant. -/
theorem template_unbroken (breach : Breach) :
    recogniser.template source start stop ≠ .error (.broken breach) := by
  cases cut : Text.slice? source start stop with
  | none =>
      rw [template_outside cut]
      exact nofun
  | some text => exact (template_safe cut).unbroken breach

theorem templates_unbroken (breach : Breach) :
    recogniser.templates source start stop ≠ .error (.broken breach) := by
  cases cut : Text.slice? source start stop with
  | none =>
      rw [templates_outside cut]
      exact nofun
  | some text => exact (templates_safe cut).unbroken breach

end Recogniser

/-- The regions of a template pair up, and each piece has its text in the source. -/
structure Template.Readable (template : Template) : Prop where
  paired : template.regions?.isSome = true
  texts : ∀ piece ∈ template.pieces,
    Text.slice? template.source piece.start piece.stop = some piece.text

/-- What a range gives is readable. -/
theorem Recogniser.Gives.readable {recogniser : Recogniser} {source : Text} {start stop : Nat}
    {template : Template} (gives : recogniser.Gives source start stop template) : template.Readable := by
  obtain ⟨lines, placed, base, classified, sublist, _, made⟩ := gives.made
  constructor
  · obtain ⟨spans, ledger⟩ := made.sound.ledger
    rw [Template.regions?, ledger.paired.pair? rfl]
    rfl
  · intro piece member
    rw [made.source]
    refine (made.pieces_lie (fun other among => ?_) piece (Array.mem_toList_iff.2 member)).slice?
    exact lines_formed classified other.line (sublist.mem (List.mem_map_of_mem among))

/-- For every recogniser, source and range, a load breaks no invariant. Before each character of the range
the slices of the line in progress exist, those of every classified line exist, and every template that the
range gives can be read. -/
theorem load_never_breaks (recogniser : Recogniser) (source : Text) (start stop : Nat) :
    (∀ breach, recogniser.template source start stop ≠ .error (.broken breach) ∧
      recogniser.templates source start stop ≠ .error (.broken breach)) ∧
    (∀ before after, Text.slice? source start stop = some (before ++ after) →
      ((Line.Draft.fresh 0 start).read before).Sliced recogniser source
        (start + Text.byteSize before)) ∧
    (∀ lines, recogniser.lines source start stop = .ok lines → ∀ line ∈ lines, line.Sliced source) ∧
    ∀ template, recogniser.Gives source start stop template → template.Readable :=
  ⟨fun breach => ⟨Recogniser.template_unbroken breach, Recogniser.templates_unbroken breach⟩,
    fun _ _ cut => Line.Draft.read_sliced recogniser cut, fun _ success => Line.sliced_of_lines success,
    fun _ gives => gives.readable⟩

/-- A text with a replacement of a character of two bytes. -/
def wideReplacement : Text := "#region TEMPLATE REPLACE(`é`, $x)\n  aéb\n\n#endregion\nc\n".toList

theorem load_never_breaks_wide :
    (∃ template, Template.load .standard wideReplacement 0 56 = .ok template ∧
      template.siteCount = 1 ∧ template.Readable) ∧
    (∃ lines, Line.ofRange .standard wideReplacement 0 56 = .ok lines ∧ lines.length = 5 ∧
      ∀ line ∈ lines, line.Sliced wideReplacement) ∧
    (Text.slice? wideReplacement 35 56 = some ("  aé".toList ++ "b\n\n#endregion\nc\n".toList) ∧
      ((Line.Draft.fresh 0 35).read "  aé".toList).Sliced Markers.standard.recogniser
        wideReplacement 40) ∧
    TemplateSet.load .standard wideReplacement 27 56 ≠ .error (.broken .noBody) := by
  have single : (Template.load .standard wideReplacement 0 56).toOption.map Template.siteCount =
      some 1 := by decide +kernel
  have count : (Line.ofRange .standard wideReplacement 0 56).toOption.map List.length = some 5 := by
    decide +kernel
  have cut : Text.slice? wideReplacement 35 56 =
      some ("  aé".toList ++ "b\n\n#endregion\nc\n".toList) := by decide +kernel
  obtain ⟨template, loaded, sites⟩ := exists_ok single
  obtain ⟨lines, classified, five⟩ := exists_ok count
  refine ⟨⟨template, loaded, sites, ?_⟩, ⟨lines, classified, five, ?_⟩, ⟨cut, ?_⟩, ?_⟩
  · exact (load_never_breaks Markers.standard.recogniser wideReplacement 0 56).2.2.2 template
      (.inl loaded)
  · exact (load_never_breaks Markers.standard.recogniser wideReplacement 0 56).2.2.1 lines classified
  · exact (load_never_breaks Markers.standard.recogniser wideReplacement 35 56).2.1 _ _ cut
  · exact ((load_never_breaks Markers.standard.recogniser wideReplacement 27 56).1 .noBody).2

end Stencil
