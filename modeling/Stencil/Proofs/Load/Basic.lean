/-
This file says when a range of a source loads, and what it loads to.
-/
import Stencil.Proofs.Assembly.Outside

namespace Stencil

section

variable {recogniser : Recogniser} {source : Text} {start stop : Nat} {lines : List Line}

/-- After the classification of a range its lines are walked over, and then all regions must be closed. -/
theorem Recogniser.finalState_eq (classified : recogniser.lines source start stop = .ok lines)
    (state : Assembly.State) :
    recogniser.finalState state source start stop =
      state.run source true lines >>= fun final => final.finish := by
  rw [finalState, classified, ← Assembly.State.walk_eq_run]
  rfl

/-- A range that loads has been classified, and its lines are run over to a state with no open region. -/
theorem Recogniser.finalState_ok {state final : Assembly.State}
    (success : recogniser.finalState state source start stop = .ok final) :
    ∃ lines, recogniser.lines source start stop = .ok lines ∧ state.run source true lines = .ok final ∧
      final.frames = [] := by
  cases classified : recogniser.lines source start stop with
  | error fault =>
      rw [finalState, classified] at success
      cases success
  | ok lines =>
      rw [finalState_eq classified] at success
      obtain ⟨last, ran, finished⟩ := bind_ok success
      obtain ⟨none, rfl⟩ := Assembly.State.finish_ok finished
      exact ⟨lines, rfl, ran, none⟩

/-- The lines of a range that loads are formed and have an outline. -/
theorem Assembly.State.exists_outline {state final : Assembly.State} (closed : state.frames = [])
    (success : recogniser.finalState state source start stop = .ok final) :
    ∃ outline : Outline, recogniser.lines source start stop = .ok outline.lines ∧
      (∀ line ∈ outline.lines, line.Formed) ∧ state.run source true outline.lines = .ok final := by
  obtain ⟨lines, classified, ran, none⟩ := Recogniser.finalState_ok success
  have balanced := run_balanced ran none
  rw [closed] at balanced
  obtain ⟨outline, rfl⟩ := Outline.exists_iff.2 balanced
  exact ⟨outline, classified, fun line member => (Recogniser.lines_formed classified line member).1, ran⟩

theorem Assembly.State.finish_eq {state : Assembly.State} (closed : state.frames = []) :
    state.finish = .ok state := by
  rw [finish, closed]

/-- A single template starts inside a body without directives. -/
theorem Assembly.State.inside_single :
    Assembly.State.single.Inside .single ⟨[], 0, #[], #[], 0⟩ [] [] where
  hasMode := rfl
  hasBody := rfl
  depth := rfl
  defined multiple := by cases multiple
  inserting := rfl
  patterns := rfl
  owned replacement member := by cases member
  sound := Assembly.Body.sound_empty [] 0

/-- A range with an outline loads as one template exactly if its lines are admitted. The template is made
of them. -/
theorem Template.load_decided {outline : Outline}
    (classified : recogniser.lines source start stop = .ok outline.lines) :
    Decided (recogniser.template source start stop)
      (∀ placed ∈ outline.placed [] true, placed.Admitted .single 0)
      (Template.Made source (outline.placed [] true) 0) := by
  have formed : ∀ line ∈ outline.lines, line.Formed := fun line member =>
    (Recogniser.lines_formed classified line member).1
  have loaded : recogniser.template source start stop =
      Assembly.State.single.run source true outline.lines >>= fun final => (final.finish >>= fun state =>
        (state.body >>= fun body => .ok (body.template source))) := by
    rw [Recogniser.template, Recogniser.finalState_eq classified, bind_assoc]
    rfl
  rw [loaded]
  apply (Assembly.State.inside_single.run_decided source outline formed true).followed
  rintro final ⟨grown, rfl, sound, growth⟩
  rw [Assembly.State.finish_eq rfl]
  exact ⟨_, rfl, growth.made sound source⟩

/-- A range with an outline loads as templates exactly if its definitions are accepted. Each template is
made of the lines of a definition with its name. -/
theorem TemplateSet.load_decided {outline : Outline}
    (classified : recogniser.lines source start stop = .ok outline.lines) :
    Decided (recogniser.templates source start stop)
      (Assembly.State.multiple.Accepts outline.definitions)
      fun set => set.names.Perm (outline.definitions.filterMap Outline.Block.name?) ∧
        ∀ name template, set.find? name = some template → ∃ block ∈ outline.definitions,
          block.name? = some name ∧ template.Made source block.placed block.opening.indentation := by
  have formed : ∀ line ∈ outline.lines, line.Formed := fun line member =>
    (Recogniser.lines_formed classified line member).1
  have loaded : recogniser.templates source start stop =
      Assembly.State.multiple.run source true outline.lines >>= fun final => (final.finish >>= fun state =>
        .ok state.finished) := by
    rw [Recogniser.templates, Recogniser.finalState_eq classified, bind_assoc]
    rfl
  rw [loaded]
  apply (Assembly.State.outside_multiple.run_decided source outline formed true).followed
  rintro final ⟨finished, rfl, names, found⟩
  rw [Assembly.State.finish_eq rfl]
  refine ⟨finished, rfl, ?_, fun name template held => ?_⟩
  · exact names.trans (.of_eq (List.append_nil _))
  · exact (found name template held).resolve_left fun absurdly => by cases absurdly

/-- The pieces of a template lie in the source that its lines lie in. -/
theorem Template.Made.pieces_lie {source : Text} {lines : List Placed} {base : Nat} {template : Template}
    (made : template.Made source lines base)
    (formed : ∀ placed ∈ lines, placed.line.Formed ∧
      Text.LiesAt source placed.line.start placed.line.text) :
    ∀ piece ∈ template.pieces.toList, Text.LiesAt source piece.start piece.text := by
  intro piece member
  rw [made.pieces] at member
  obtain ⟨placed, among, inside⟩ := List.mem_flatMap.1 member
  obtain ⟨whole, lies⟩ := formed placed among
  exact placed.pieces_lie whole lies inside

/-- A range that loads as one template has an outline with admitted lines. The template is made of them. -/
theorem Template.exists_made {template : Template}
    (success : recogniser.template source start stop = .ok template) :
    ∃ outline : Outline, recogniser.lines source start stop = .ok outline.lines ∧
      (∀ placed ∈ outline.placed [] true, placed.Admitted .single 0) ∧
      template.Made source (outline.placed [] true) 0 := by
  obtain ⟨final, loaded, _⟩ := bind_ok success
  obtain ⟨outline, classified, _⟩ := Assembly.State.exists_outline rfl loaded
  have decided := Template.load_decided classified
  exact ⟨outline, classified, decided.holds template success, decided.effect_of_ok success⟩

/-- A range that loads as templates has an outline. Each template is made of the lines of a definition with
its name, and these lines are admitted. -/
theorem TemplateSet.exists_made {set : TemplateSet}
    (success : recogniser.templates source start stop = .ok set) :
    ∃ outline : Outline, recogniser.lines source start stop = .ok outline.lines ∧
      ∀ entry ∈ set.entries, ∃ block ∈ outline.definitions, block.name? = some entry.1 ∧
        block.Admitted ∧ entry.2.Made source block.placed block.opening.indentation := by
  obtain ⟨final, loaded, _⟩ := bind_ok success
  obtain ⟨outline, classified, _⟩ := Assembly.State.exists_outline rfl loaded
  have decided := TemplateSet.load_decided classified
  refine ⟨outline, classified, fun entry member => ?_⟩
  obtain ⟨block, among, named, made⟩ :=
    (decided.effect_of_ok success).2 entry.1 entry.2 (find?_of_mem member)
  exact ⟨block, among, named, (decided.holds set success).1 block among, made⟩

/-- A range gives a template if it loads as this one template or as a set that has it. -/
def Recogniser.Gives (recogniser : Recogniser) (source : Text) (start stop : Nat) (template : Template) :
    Prop :=
  recogniser.template source start stop = .ok template ∨
    ∃ set name, recogniser.templates source start stop = .ok set ∧ (name, template) ∈ set.entries

/-- A template that a range gives is made of some of the lines of the range, in their order and in their
places. Only behind the last of them may the text end. -/
theorem Recogniser.Gives.made {template : Template} (gives : recogniser.Gives source start stop template) :
    ∃ lines placed base, recogniser.lines source start stop = .ok lines ∧
      (placed.map Placed.line).Sublist lines ∧
      placed.Pairwise (fun first _ => first.isLast = false) ∧ template.Made source placed base := by
  rcases gives with success | ⟨set, name, success, member⟩
  · obtain ⟨outline, classified, _, made⟩ := Template.exists_made success
    refine ⟨_, _, 0, classified, ?_, outline.placed_isLast [] true, made⟩
    exact (outline.placed_map_line [] true) ▸ List.Sublist.refl _
  · obtain ⟨outline, classified, found⟩ := TemplateSet.exists_made success
    obtain ⟨block, among, _, _, made⟩ := found _ member
    refine ⟨_, _, block.opening.indentation, classified, ?_, ?_, made⟩
    · rw [block.placed_map_line]
      exact Outline.sublist_of_mem_blocks (Outline.mem_definitions among).1
    · refine List.Pairwise.imp_of_mem ?_ (List.pairwise_of_forall fun _ _ => trivial)
      exact fun inside _ _ => Outline.Block.isLast_of_mem_placed inside

end

end Stencil
