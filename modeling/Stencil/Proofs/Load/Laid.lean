/-
This file says of the templates of a range where their boundaries stand among their pieces.
-/
import Stencil.Proofs.Assembly.Stops
import Stencil.Proofs.Load.Basic
import Stencil.Proofs.Outcome

namespace Stencil

/-- A template is made of some placed lines over a base, and its boundaries stand where the lines are. -/
structure Template.Laid (source : Text) (lines : List Placed) (base : Nat) (template : Template) : Prop
    extends Template.Made source lines base template where
  stops : template.boundaries.toList.map Boundary.piece = Placed.stops base 0 lines

namespace Assembly.State

section

variable {source : Text} {state entered left next : State}

/-- All boundaries of a body without pieces stand at its start. -/
theorem lays_of_bare {name : Text} {base : Nat} {body : Body} {opened : List Nat} (sound : body.Sound opened)
    (bare : body.pieces.toList = []) : Body.Lays ⟨name, base, #[], #[], 0⟩ body := by
  obtain ⟨spans, ledger⟩ := sound.recorded
  refine ⟨body.stops.length, List.eq_replicate_iff.2 ⟨rfl, fun stop member => ?_⟩⟩
  obtain ⟨boundary, among, rfl⟩ := List.mem_map.1 member
  have bound := (ledger.placed boundary among).1
  rw [bare] at bound
  exact Nat.le_zero.1 bound

/-- A line that opens a region adds its frame. -/
theorem step_opening_frames {line : Line} {directives : List Directive} (opens : line.Opens directives) {isLast : Bool}
    (success : state.step source line isLast = .ok next) :
    next.frames = ⟨line.number, line.indentation, directives⟩ :: state.frames := by
  rcases step_frames success with ⟨others, also, same⟩ | ⟨closes, _⟩ | ⟨between, _⟩
  · rw [same, opens.unique also]
  · rw [Line.not_closes_of_opens opens.opens] at closes
    cases closes
  · rw [opens.opens] at between
    cases between.1

/-- A line that closes a region with directives closes these. -/
theorem step_closing_exits {line : Line} (closes : line.closes = true) {isLast : Bool}
    (success : state.step source line isLast = .ok next) {frame : Frame} {frames : List Frame}
    (same : state.frames = frame :: frames) (nonempty : frame.directives ≠ []) :
    { state with frames }.exitAll source frame.directives.reverse = .ok next := by
  rw [step_closing closes same, if_neg (by simpa using nonempty)] at success
  obtain ⟨_, _, exited⟩ := bind_ok success
  exact exited

/-- The opening line of a definition gives its boundaries to the body that it starts. -/
theorem laid_definition_opening {line : Line} {start : Nat} {tokens : List Token} {directive : Directive}
    {rest : List Directive} {name : Text} {begun : Body} {inner : List Nat}
    (kind : line.kind = .directives start tokens) (instruction : directive.instruction = .define name)
    (sound : begun.Sound inner)
    (growth : Body.Grows ⟨name, line.indentation, #[], #[], 0⟩ begun [] (Directive.openings 0 rest)) :
    Body.Laid line.indentation [⟨line, [], directive :: rest, false⟩] ⟨name, line.indentation, #[], #[], 0⟩ begun := by
  refine (lays_of_bare sound growth.pieces).laid ?_
  rwa [Placed.pieces_dropped (by simp [kind]) (Placed.isKept_directives kind false),
    Placed.marks_opening (by rw [Line.opens, kind]), Nat.sub_self, Directive.openings_define instruction]

/-- The closing line of a definition gives its boundaries to the body behind the pieces that this has. -/
theorem laid_definition_closing {line : Line} {directive : Directive} {rest : List Directive} {name : Text}
    {last final : Body} (base : Nat) (closes : line.closes = true)
    (instruction : directive.instruction = .define name) (lays : last.Lays final)
    (growth : last.Grows final [] (Directive.closings rest)) :
    Body.Laid base [⟨line, [], directive :: rest, false⟩] last final := by
  refine lays.laid ?_
  rwa [Placed.pieces_dropped (Line.ne_empty_of_isText (Line.isText_of_closes closes))
      (Placed.isKept_closing closes (List.cons_ne_nil directive rest) false),
    Placed.marks_closing closes, Directive.closings_define instruction]

/-- The lines of a definition finish a template whose boundaries stand where the lines are. -/
theorem Outside.block_laid (outside : state.Outside) (block : Outline.Block)
    (opens : block.opening.Opens block.directives) (nonempty : block.directives ≠ [])
    (formed : ∀ line ∈ block.inside.lines, line.Formed) (closes : block.closing.closes = true) {isLast : Bool}
    (stepped : state.step source block.opening false = .ok entered)
    (ran : entered.run source false block.inside.lines = .ok left)
    (closed : left.step source block.closing isLast = .ok next) {name : Text} {template : Template}
    (found : next.finished.find? name = some template) :
    state.finished.find? name = some template ∨
      block.name? = some name ∧ template.Laid source block.placed block.opening.indentation := by
  have success : (state.step source block.opening false >>= fun entered =>
      entered.run source false block.inside.lines >>= fun left =>
        left.step source block.closing isLast) = .ok next :=
    bind_of_ok stepped (bind_of_ok ran closed)
  obtain ⟨finished, rfl, _, known⟩ :=
    (outside.block_decided source block opens nonempty formed closes isLast).effect_of_ok success
  refine (known name template found).imp_right ?_
  rintro ⟨_, among, named, made⟩
  cases List.mem_singleton.1 among
  refine ⟨named, made, ?_⟩
  obtain ⟨opening, directives, inside, closing⟩ := block
  dsimp only at opens nonempty formed closes stepped ran closed named made ⊢
  obtain ⟨directive, rest, rfl⟩ := List.exists_cons_of_ne_nil nonempty
  have frames := step_opening_frames opens stepped
  cases opens with
  | directed kind parsed =>
      obtain ⟨title, begun, inner, instruction, _, insideEntered, growth, closings⟩ :=
        (outside.step_definition_decided source kind parsed).effect_of_ok stepped
      obtain ⟨last, rfl, soundLast, growthLast⟩ :=
        (insideEntered.run_decided source inside formed false).effect_of_ok ran
      obtain ⟨final, _, shrinks, finishes⟩ :=
        (closings last _ _ closing isLast growthLast soundLast closes).effect_of_ok closed
      obtain ⟨set, grown, also, turns⟩ :=
        exitAll_definition rfl instruction (step_closing_exits closes closed frames nonempty)
      -- Both views of the closing line finish one template.
      have titled : finished.find? title = some (final.template source) := by
        have same : finished = state.finished.insert title (final.template source) := congrArg State.finished finishes
        rw [same, TemplateSet.find?_insert, if_pos rfl]
      have grownTitled : finished.find? title = some (grown.template source) := by
        have same : finished = set.insert title (grown.template source) := also
        rw [same, TemplateSet.find?_insert, if_pos rfl]
      obtain rfl : title = name := by
        have given : directive.name? = some title := by rw [Directive.name?, instruction]
        exact Option.some.inj (given.symm.trans named)
      cases titled.symm.trans found
      have boundaries : grown.boundaries = final.boundaries :=
        congrArg Template.boundaries (Option.some.inj (grownTitled.symm.trans titled))
      have lays : last.Lays final := by
        obtain ⟨count, stops⟩ := turns.2
        exact ⟨count, by rw [← stops, Body.stops, Body.stops, boundaries]⟩
      have first := laid_definition_opening kind instruction insideEntered.sound growth
      have second := insideEntered.run_laid formed ran rfl
      rw [growth.base] at second
      have third := laid_definition_closing opening.indentation closes instruction lays shrinks
      exact (first.trans (second.trans third)).stops

/-- The templates of a text that defines them are made of the lines of its definitions, and their boundaries stand
where the lines are. -/
theorem Outside.run_laid (outside : state.Outside) {outline : Outline}
    (formed : ∀ line ∈ outline.lines, line.Formed) {atEnd : Bool}
    (success : state.run source atEnd outline.lines = .ok next) {name : Text} {template : Template}
    (found : next.finished.find? name = some template) :
    state.finished.find? name = some template ∨ ∃ block ∈ outline.definitions, block.name? = some name ∧
      template.Laid source block.placed block.opening.indentation := by
  induction outline generalizing state next atEnd with
  | done =>
      cases success
      exact .inl found
  | plain line between rest ih =>
      rw [Outline.lines_plain, run, outside.step_plain_eq between] at success
      exact ih outside (fun other member => formed other (.tail _ member)) success found
  | region opening directives opens within closing closes rest withinIh restIh =>
      obtain ⟨_, formedWithin, _, formedRest⟩ := Outline.forall_mem_lines_region.1 formed
      rw [run_region] at success
      obtain ⟨entered, stepped, success⟩ := bind_ok success
      obtain ⟨left, ran, success⟩ := bind_ok success
      obtain ⟨middle, closed, success⟩ := bind_ok success
      rw [Outline.definitions]
      cases directives with
      | nil =>
          cases stepped.symm.trans (outside.step_opening_eq opens)
          have inner := outside.with (⟨opening.number, opening.indentation, []⟩ :: state.frames) state.finished
          obtain ⟨finished, rfl, _⟩ := (inner.run_decided source within formedWithin false).effect_of_ok ran
          cases closed.symm.trans ((outside.with state.frames finished).step_closing_eq closes rfl _)
          rcases restIh (outside.with state.frames finished) formedRest success found with earlier | later
          · rcases withinIh inner formedWithin ran earlier with before | ⟨block, among, facts⟩
            · exact .inl before
            · exact .inr ⟨block, List.mem_append_left _ among, facts⟩
          · obtain ⟨block, among, facts⟩ := later
            exact .inr ⟨block, List.mem_append_right _ among, facts⟩
      | cons directive others =>
          have nonempty := List.cons_ne_nil directive others
          obtain ⟨finished, rfl, _⟩ := (outside.block_decided source ⟨opening, directive :: others, within, closing⟩
            opens nonempty formedWithin closes _).effect_of_ok (bind_of_ok stepped (bind_of_ok ran closed))
          rcases restIh (outside.with state.frames finished) formedRest success found with earlier | later
          · rcases outside.block_laid ⟨opening, directive :: others, within, closing⟩ opens nonempty formedWithin closes
              stepped ran closed earlier with before | facts
            · exact .inl before
            · exact .inr ⟨_, List.mem_append_left _ (List.mem_singleton.2 rfl), facts⟩
          · obtain ⟨block, among, facts⟩ := later
            exact .inr ⟨block, List.mem_append_right _ among, facts⟩

end

end Assembly.State

section

variable {recogniser : Recogniser} {source : Text} {start stop : Nat}

/-- The boundaries of a template stand where the lines of its range are, which are admitted. -/
theorem Template.exists_laid {template : Template}
    (success : recogniser.template source start stop = .ok template) :
    ∃ outline : Outline, recogniser.lines source start stop = .ok outline.lines ∧
      (∀ placed ∈ outline.placed [] true, placed.Admitted .single 0) ∧
      template.Laid source (outline.placed [] true) 0 := by
  obtain ⟨outline, classified, admitted, made⟩ := Template.exists_made success
  refine ⟨outline, classified, admitted, made, ?_⟩
  have formed : ∀ line ∈ outline.lines, line.Formed := fun line member =>
    (Recogniser.lines_formed classified line member).1
  obtain ⟨final, loaded, success⟩ := bind_ok success
  obtain ⟨_, also, ran, _⟩ := Recogniser.finalState_ok loaded
  cases classified.symm.trans also
  obtain ⟨grown, rfl, _⟩ :=
    (Assembly.State.inside_single.run_decided source outline formed true).effect_of_ok ran
  cases success
  exact (Assembly.State.inside_single.run_laid formed ran rfl).stops

/-- The boundaries of the templates of a set stand where the lines of their definitions are, which are admitted. -/
theorem TemplateSet.exists_laid {set : TemplateSet}
    (success : recogniser.templates source start stop = .ok set) :
    ∃ outline : Outline, recogniser.lines source start stop = .ok outline.lines ∧
      ∀ entry ∈ set.entries, ∃ block ∈ outline.definitions, block.name? = some entry.1 ∧
        block.Admitted ∧ entry.2.Laid source block.placed block.opening.indentation := by
  obtain ⟨final, loaded, same⟩ := bind_ok success
  cases same
  obtain ⟨outline, classified, formed, ran⟩ := Assembly.State.exists_outline rfl loaded
  refine ⟨outline, classified, fun entry member => ?_⟩
  have accepted := (TemplateSet.load_decided classified).holds _ success
  rcases Assembly.State.outside_multiple.run_laid formed ran (find?_of_mem member) with
    absurdly | ⟨block, among, named, laid⟩
  · cases absurdly
  · exact ⟨block, among, named, accepted.1 block among, laid⟩

end

end Stencil
