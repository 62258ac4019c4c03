/-
This file runs over the lines of an outline at the top level of a text that defines templates. Each
definition is run inside its body and finishes one template.
-/
import Stencil.Proofs.Assembly.Made
import Stencil.Proofs.Assembly.Region
import Stencil.Proofs.Outline.Definitions
import Stencil.Proofs.Template.Set

namespace Stencil.Assembly.State

/-- The state is at the top level of a text that defines templates. -/
structure Outside (state : State) : Prop where
  hasMode : state.mode = .multiple
  hasBody : state.body? = none
  depth : state.depth = 0
  inserting : state.insideInsert = false
  replacements : state.replacements = []

/-- The next state differs in its finished templates only. It has one more for each of some blocks, which
is made of the lines of its block. -/
def Finishes (source : Text) (state : State) (blocks : List Outline.Block) (next : State) : Prop :=
  ∃ finished, next = { state with finished } ∧
    finished.names.Perm (blocks.filterMap Outline.Block.name? ++ state.finished.names) ∧
    ∀ name template, finished.find? name = some template →
      state.finished.find? name = some template ∨ ∃ block ∈ blocks,
        block.name? = some name ∧ template.Made source block.placed block.opening.indentation

/-- The blocks are definitions with admitted lines, and their names are free. -/
def Accepts (state : State) (blocks : List Outline.Block) : Prop :=
  (∀ block ∈ blocks, block.Admitted) ∧ state.finished.Free (blocks.filterMap Outline.Block.name?)

section

variable {source : Text} {state next : State}

theorem outside_multiple : multiple.Outside := ⟨rfl, rfl, rfl, rfl, rfl⟩

/-- Frames and finished templates do not matter at the top level. -/
theorem Outside.with (outside : state.Outside) (frames : List Frame) (finished : TemplateSet) :
    { state with frames, finished }.Outside :=
  { outside with }

theorem Finishes.refl (source : Text) (state : State) : state.Finishes source [] state :=
  ⟨state.finished, rfl, .refl _, fun _ _ found => .inl found⟩

theorem Finishes.trans {blocks more : List Outline.Block} {final : State}
    (first : state.Finishes source blocks next) (second : next.Finishes source more final) :
    state.Finishes source (blocks ++ more) final := by
  obtain ⟨finished, rfl, names, found⟩ := first
  obtain ⟨last, rfl, allNames, allFound⟩ := second
  refine ⟨last, rfl, ?_, fun name template held => ?_⟩
  · rw [List.filterMap_append]
    refine allNames.trans ((names.append_left _).trans ?_)
    rw [← List.append_assoc]
    exact List.perm_append_comm.append_right _
  · rcases allFound name template held with earlier | ⟨block, member, made⟩
    · refine (found name template earlier).imp_right ?_
      rintro ⟨block, member, made⟩
      exact ⟨block, List.mem_append_left _ member, made⟩
    · exact .inr ⟨block, List.mem_append_right _ member, made⟩

/-- Outside of templates text is dropped. -/
theorem Outside.addText_eq (outside : state.Outside) (line : Line) (isLast : Bool) :
    state.addText line isLast = .ok state := by
  rw [addText, outside.hasBody]

theorem Outside.addBlank_eq (outside : state.Outside) (line : Line) (isLast : Bool) :
    state.addBlank line isLast = .ok state := by
  rw [addBlank, outside.hasBody]
  exact ite_self _

theorem Outside.checkIndentation_eq (outside : state.Outside) (line : Line) :
    state.checkIndentation line = .ok () := by
  rw [checkIndentation, outside.hasBody]
  rfl

theorem Outside.step_plain_eq (outside : state.Outside) {line : Line}
    (between : line.opens = false ∧ line.closes = false) (isLast : Bool) :
    state.step source line isLast = .ok state := by
  rw [step]
  cases kind : line.kind with
  | empty => exact outside.addBlank_eq line isLast
  | regular => exact outside.addText_eq line isLast
  | opening | directives | closing => simp [Line.opens, Line.closes, kind] at between

/-- A region without directives opens and leaves the top level as it is. -/
theorem Outside.step_opening_eq (outside : state.Outside) {line : Line} (opens : line.Opens []) :
    state.step source line false = .ok (state.pushFrame line []) := by
  cases opens with
  | plain kind =>
      rw [step, kind]
      exact (outside.with (⟨line.number, line.indentation, []⟩ :: state.frames) _).addText_eq line false
  | directed kind parsed =>
      rw [step, kind]
      dsimp only
      rw [parsed]
      change (state.checkIndentation line >>= _) = _
      rw [outside.checkIndentation_eq]
      rfl

theorem Outside.step_closing_eq (outside : state.Outside) {line : Line} (closes : line.closes = true)
    {frame : Frame} (none : frame.directives = []) (isLast : Bool) :
    { state with frames := frame :: state.frames }.step source line isLast = .ok state := by
  rw [step_closing closes rfl, none, List.isEmpty_nil, if_pos rfl]
  exact outside.addText_eq line isLast

/-- At the top level only a definition is admitted. -/
theorem admitted_top_iff {directive : Directive} :
    directive.Admitted .multiple [] ↔ ∃ name, directive.instruction = .define name := by
  constructor
  · intro admitted
    have defines := admitted.defines.2 ⟨rfl, rfl⟩
    cases instruction : directive.instruction with
    | define name => exact ⟨name, rfl⟩
    | replace | foreach | insert => simp [Directive.isDefine, instruction, Instruction.keyword] at defines
  · rintro ⟨name, instruction⟩
    refine ⟨⟨fun _ => ⟨rfl, rfl⟩, fun _ => ?_⟩, (fun other member => by cases member), ?_⟩
    · simp [Directive.isDefine, instruction, Instruction.keyword]
    · simp [Directive.compiles, instruction]

/-- At the top level a directive is entered if it is a definition with a free name. It starts a body. -/
theorem Outside.enter_decided (outside : state.Outside) (line : Line) (directive : Directive) :
    Decided (state.enter line directive)
      (directive.Admitted .multiple [] ∧ state.finished.Free directive.name?.toList)
      (fun next => ∃ name, directive.instruction = .define name ∧ name ∉ state.finished.names ∧
        next = state.withBody ⟨name, line.indentation, #[], #[], 0⟩) := by
  have expects : state.expectsDefine = true := by
    rw [State.expectsDefine, outside.hasMode, outside.depth]
    rfl
  rw [admitted_top_iff]
  cases instruction : directive.instruction with
  | define name =>
      have named : directive.name? = some name := by rw [Directive.name?, instruction]
      have free : state.finished.Free directive.name?.toList ↔
          name.isEmpty = false ∧ state.finished.contains name = false := by
        rw [named, Option.toList_some, Bool.eq_false_iff, Bool.eq_false_iff, Ne,
          List.isEmpty_iff, Ne, TemplateSet.contains_iff]
        exact ⟨fun free => free.unused name List.mem_cons_self, fun unused =>
          ⟨List.pairwise_singleton _ _, fun other member => List.mem_singleton.1 member ▸ unused⟩⟩
      rw [free]
      cases empty : name.isEmpty with
      | true =>
          have failure : state.enter line directive = refuse directive .emptyName := by
            simp [enter, expects, instruction, empty, Instruction.keyword]
          exact .of_error failure fun admitted => by cases admitted.2.1
      | false =>
          cases held : state.finished.contains name with
          | true =>
              have failure : state.enter line directive = refuse directive (.duplicateName name) := by
                simp [enter, expects, instruction, empty, held, Instruction.keyword]
              exact .of_error failure fun admitted => by cases admitted.2.2
          | false =>
              have success : state.enter line directive =
                  .ok (state.withBody ⟨name, line.indentation, #[], #[], 0⟩) := by
                simp [enter, expects, instruction, empty, held, Instruction.keyword]
              have absent : name ∉ state.finished.names := by
                rw [← TemplateSet.contains_iff, held]
                exact Bool.false_ne_true
              exact .of_ok success ⟨⟨name, rfl⟩, rfl, rfl⟩ ⟨name, rfl, absent, rfl⟩
  | replace | foreach | insert =>
      have failure : state.enter line directive =
          refuse directive (.expectedDefine directive.instruction.keyword) := by
        rw [enter, expects, instruction]
        rfl
      exact .of_error failure fun admitted => by obtain ⟨⟨_, same⟩, _⟩ := admitted; cases same

/-- The state behind a definition at the top level is inside its body. -/
theorem Outside.inside (outside : state.Outside) {directive : Directive} {name : Text}
    (instruction : directive.instruction = .define name) (base : Nat) :
    { state.withBody ⟨name, base, #[], #[], 0⟩ with depth := state.depth + 1 }.Inside .multiple
      ⟨name, base, #[], #[], 0⟩ [directive] [] where
  hasMode := outside.hasMode
  hasBody := rfl
  depth := by rw [outside.depth]; rfl
  defined _ := List.cons_ne_nil _ _
  inserting := by
    simp [withBody, outside.inserting, Directive.isInsert, instruction, Instruction.keyword]
  patterns := by
    simp [withBody, outside.replacements, Directive.pattern?, instruction]
  owned replacement member := by
    rw [withBody, outside.replacements] at member
    cases member
  sound := Body.sound_empty name base

/-- Closing a definition finishes its template and leads back to the top level. -/
theorem Outside.exit_eq (outside : state.Outside) {directive : Directive} {name : Text}
    (instruction : directive.instruction = .define name) (body : Body) :
    (state.withBody body).exit source directive =
      .ok { state with finished := state.finished.insert name (body.template source) } := by
  rw [exit, instruction]
  simp only [withBody, outside.replacements, outside.hasBody, List.isEmpty_nil, Bool.not_true,
    Bool.false_eq_true, if_false]
  rfl

/-- A line has opened a definition. A line that closes it is accepted if it does not stand left of the
definition, and finishes the template. -/
def Defined (source : Text) (state : State) (line : Line) (directive : Directive)
    (rest : List Directive) (entered : State) : Prop :=
  ∃ name grown inner, directive.instruction = .define name ∧ name ∉ state.finished.names ∧
    entered.Inside .multiple grown (directive :: rest) inner ∧
    Body.Grows ⟨name, line.indentation, #[], #[], 0⟩ grown [] (Directive.openings 0 rest) ∧
    ∀ (last : Body) (more : List Piece) (others : List Mark) (closing : Line) (isLast : Bool),
      grown.Grows last more others → last.Sound inner → closing.closes = true →
      Decided ((entered.withBody last).step source closing isLast) (line.indentation ≤ closing.indentation)
        fun next => ∃ final : Body, final.Sound [] ∧ last.Grows final [] (Directive.closings rest) ∧
          next = { state with finished := state.finished.insert name (final.template source) }

/-- A line at the top level opens its directives if the first of them is a definition with a free name
and the others are admitted inside it. -/
theorem Outside.step_definition_decided (outside : state.Outside) (source : Text) {line : Line}
    {start : Nat} {tokens : List Token} {directive : Directive} {rest : List Directive}
    (kind : line.kind = .directives start tokens)
    (parsed : Directive.parse line.number line.start tokens = .ok (directive :: rest)) :
    Decided (state.step source line false)
      (Directive.AllAdmitted .multiple [] (directive :: rest) ∧
        state.finished.Free directive.name?.toList)
      (Defined source state line directive rest) := by
  rw [step, kind]
  dsimp only
  rw [parsed]
  change Decided (state.checkIndentation line >>= fun _ => (state.enterAll line (directive :: rest) >>=
    fun entered => .ok (entered.pushFrame line (directive :: rest)))) _ _
  rw [outside.checkIndentation_eq]
  change Decided (state.enterAll line (directive :: rest) >>= _) _ _
  rw [enterAll, bind_assoc, Directive.allAdmitted_cons, and_right_comm, List.nil_append]
  refine (outside.enter_decided line directive).bind ?_
  rintro _ ⟨name, instruction, absent, rfl⟩
  apply ((outside.inside instruction line.indentation).enterAll_decided source (Nat.le_refl _)
    rest).followed
  rintro entered ⟨grown, inner, insideEntered, growth, exits⟩
  dsimp only at growth
  rw [Nat.sub_self] at growth
  refine ⟨_, rfl, name, grown, inner, instruction, absent, insideEntered.withFrames _, growth,
    fun last more others closing isLast later soundLast closes => ?_⟩
  obtain ⟨_, exited, outer, rfl, soundOuter, shrinks⟩ := exits last soundLast
  have exitedFirst :
      { state.withBody outer with depth := state.depth + 1 }.exitAll source [directive] =
        .ok { state with finished := state.finished.insert name (outer.template source) } :=
    (exitAll_singleton rfl).trans (outside.exit_eq instruction outer)
  have exitedAll : (entered.withBody last).exitAll source (directive :: rest).reverse =
      .ok { state with finished := state.finished.insert name (outer.template source) } := by
    rw [List.reverse_cons, exitAll_append, exited]
    exact exitedFirst
  have insideLast := insideEntered.grow soundLast later
  have decided := insideLast.step_directed_closing_decided
    ⟨line.number, line.indentation, directive :: rest⟩ (List.cons_ne_nil _ _) exitedAll closes isLast
  rw [(growth.trans later).base] at decided
  apply decided.weaken
  rintro _ rfl
  exact ⟨outer, soundOuter, shrinks, rfl⟩

/-- The lines of a definition are accepted exactly if they are admitted and its name is free. They finish
its template. -/
theorem Outside.block_decided (outside : state.Outside) (source : Text) (block : Outline.Block)
    (opens : block.opening.Opens block.directives) (nonempty : block.directives ≠ [])
    (formed : ∀ line ∈ block.inside.lines, line.Formed) (closes : block.closing.closes = true)
    (isLast : Bool) :
    Decided (state.step source block.opening false >>= fun entered =>
        entered.run source false block.inside.lines >>= fun left => left.step source block.closing isLast)
      (state.Accepts [block]) (state.Finishes source [block]) := by
  have admitted := Outline.Block.admitted_iff_inside opens closes nonempty
  have pieces (base : Nat) := Outline.Block.flatMap_placed opens closes nonempty
    fun _ notEmpty dropped => Placed.pieces_dropped notEmpty dropped base
  have marks := Outline.Block.flatMap_marks opens closes
  rw [Accepts, List.forall_mem_singleton, admitted, and_right_comm]
  obtain ⟨opening, directives, inside, closing⟩ := block
  dsimp only at opens nonempty formed closes pieces marks ⊢
  cases opens with
  | plain => exact absurd rfl nonempty
  | directed kind parsed =>
      cases directives with
      | nil => exact absurd rfl nonempty
      | cons directive rest =>
          have named : [(⟨opening, directive :: rest, inside, closing⟩ : Outline.Block)].filterMap
              Outline.Block.name? = directive.name?.toList := by
            rw [List.filterMap_cons, List.filterMap_nil, Outline.Block.name?, List.head?_cons,
              Option.bind_some]
            cases directive.name? <;> rfl
          rw [named]
          refine (outside.step_definition_decided source kind parsed).bind ?_
          rintro entered ⟨name, grown, inner, instruction, absent, insideEntered, growth, closed⟩
          have running := insideEntered.run_decided source inside formed false
          rw [growth.base] at running
          refine running.bind ?_
          rintro _ ⟨last, rfl, soundLast, growthLast⟩
          apply (closed last _ _ closing isLast growthLast soundLast closes).weaken
          rintro _ ⟨final, soundFinal, shrinks, rfl⟩
          have sameName : directive.name? = some name := by rw [Directive.name?, instruction]
          have openings : Directive.openings 0 rest = Directive.openings
              (opening.indentation - opening.indentation) (directive :: rest) := by
            rw [Nat.sub_self, Directive.openings_define instruction]
          have whole := growth.trans (growthLast.trans shrinks)
          rw [List.append_nil, List.nil_append, openings, ← Directive.closings_define instruction,
            ← pieces, ← marks] at whole
          refine ⟨_, rfl, ?_, fun other template found => ?_⟩
          · rw [named, sameName]
            exact TemplateSet.names_insert absent _
          · rw [TemplateSet.find?_insert] at found
            split at found
            · next same =>
                cases found
                exact .inr ⟨_, List.mem_singleton.2 rfl, same ▸ sameName, whole.made soundFinal source⟩
            · exact .inl found

/-- A run over some blocks and then over others accepts all of them in turn. -/
theorem decided_append {outcome : Except Stop State} {blocks more : List Outline.Block}
    (first : Decided outcome (state.Accepts blocks) (state.Finishes source blocks))
    {following : State → Except Stop State}
    (second : ∀ next, state.Finishes source blocks next →
      Decided (following next) (next.Accepts more) (next.Finishes source more)) :
    Decided (outcome >>= following) (state.Accepts (blocks ++ more))
      (state.Finishes source (blocks ++ more)) := by
  have parts : state.Accepts (blocks ++ more) ↔ state.Accepts blocks ∧
      (∀ block ∈ more, block.Admitted) ∧
        state.finished.Free ((blocks ++ more).filterMap Outline.Block.name?) := by
    rw [Accepts, Accepts, List.forall_mem_append, List.filterMap_append]
    constructor
    · rintro ⟨⟨here, later⟩, free⟩
      exact ⟨⟨here, free.left⟩, later, free⟩
    · rintro ⟨⟨here, _⟩, later, free⟩
      exact ⟨⟨here, later⟩, free⟩
  rw [parts]
  refine first.given.bind fun next facts => ?_
  obtain ⟨accepted, finishes⟩ := facts
  refine (second next finishes).imp (and_congr .rfl ?_) fun final later => finishes.trans later
  obtain ⟨finished, rfl, names, _⟩ := finishes
  rw [List.filterMap_append, TemplateSet.free_append names]
  exact and_iff_right accepted.2

/-- At the top level the lines of an outline are accepted exactly if its definitions are. They finish
the templates of the definitions. -/
theorem Outside.run_decided (outside : state.Outside) (source : Text) (outline : Outline)
    (formed : ∀ line ∈ outline.lines, line.Formed) (atEnd : Bool) :
    Decided (state.run source atEnd outline.lines) (state.Accepts outline.definitions)
      (state.Finishes source outline.definitions) := by
  induction outline generalizing state atEnd with
  | done =>
      exact .of_ok rfl ⟨fun block member => (by cases member), TemplateSet.free_nil _⟩ (.refl _ _)
  | plain line between rest ih =>
      rw [Outline.lines_plain, run, outside.step_plain_eq between]
      exact ih outside (fun other member => formed other (.tail _ member)) atEnd
  | region opening directives opens within closing closes rest withinIh restIh =>
      obtain ⟨_, formedWithin, _, formedRest⟩ := Outline.forall_mem_lines_region.1 formed
      have split : state.run source atEnd
          (Outline.region opening directives opens within closing closes rest).lines =
            (state.step source opening false >>= fun entered =>
              entered.run source false within.lines >>= fun left =>
                left.step source closing (atEnd && rest.isDone)) >>= fun next =>
                  next.run source atEnd rest.lines := by
        rw [run_region]
        simp only [bind_assoc]
      rw [split, Outline.definitions]
      refine decided_append ?_ fun next finishes => ?_
      · cases directives with
        | nil =>
            rw [outside.step_opening_eq opens]
            have running := withinIh
              (outside.with (⟨opening.number, opening.indentation, []⟩ :: state.frames) state.finished)
              formedWithin false
            apply running.followed
            rintro left ⟨finished, rfl, facts⟩
            exact ⟨_, (outside.with state.frames finished).step_closing_eq closes rfl _,
              finished, rfl, facts⟩
        | cons directive others =>
            rw [List.isEmpty_cons, if_neg Bool.false_ne_true]
            exact outside.block_decided source ⟨opening, directive :: others, within, closing⟩ opens
              (List.cons_ne_nil _ _) formedWithin closes _
      · obtain ⟨finished, rfl, _⟩ := finishes
        exact restIh (outside.with state.frames finished) formedRest atEnd

end

end Stencil.Assembly.State
