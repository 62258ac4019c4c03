/-
This file assembles lines over templates that are finished before, and shows that these matter to the names
of definitions only.
-/
import Stencil.Proofs.Assembly.Run
import Stencil.Proofs.Outcome
import Stencil.Proofs.Outline.Placed
import Stencil.Proofs.Template.Union

namespace Stencil

/-- The directives of a line. Only a line that opens a region has any. -/
def Line.directives (line : Line) : List Directive :=
  match line.kind with
  | .directives _ tokens => (Directive.parse line.number line.start tokens).toOption.getD []
  | .empty | .opening | .closing | .regular => []

theorem Line.Opens.directives_eq {line : Line} {directives : List Directive} (opens : line.Opens directives) :
    line.directives = directives := by
  cases opens with
  | plain kind => rw [Line.directives, kind]
  | directed kind parsed =>
      rw [Line.directives, kind]
      dsimp only
      rw [parsed]
      rfl

/-- The directive defines a template with a name that a set has. -/
def Directive.isTaken (set : TemplateSet) (directive : Directive) : Bool :=
  directive.name?.any set.contains

namespace Assembly.State

/-- The first of some directives with a name that is taken is refused. -/
def refuseTaken (set : TemplateSet) (directives : List Directive) : Except Stop Unit :=
  match directives.find? (Directive.isTaken set) with
  | none => .ok ()
  | some directive => refuse directive (.duplicateName (directive.name?.getD []))

/-- The state with the templates of a set finished before its own. -/
def atop (set : TemplateSet) (state : State) : State :=
  { state with finished := set.union state.finished }

/-- What a state becomes behind some directives if the templates of a set were finished before. -/
def atopAfter (set : TemplateSet) (directives : List Directive) (next : State) : Except Stop State :=
  refuseTaken set directives >>= fun _ => .ok (next.atop set)

section

variable {set : TemplateSet} {source : Text} {state next middle : State} {line : Line}

theorem refuseTaken_append (first second : List Directive) :
    refuseTaken set (first ++ second) =
      refuseTaken set first >>= fun _ => refuseTaken set second := by
  simp only [refuseTaken, List.find?_append]
  cases first.find? (Directive.isTaken set) <;> rfl

/-- Two steps over a set refuse the names of both. -/
theorem atopAfter_bind {outcome : Except Stop State} {following : State → Except Stop State}
    {first second : List Directive} (earlier : outcome = atopAfter set first middle)
    (later : following (middle.atop set) = atopAfter set second next) :
    outcome >>= following = atopAfter set (first ++ second) next := by
  rw [earlier, atopAfter, atopAfter, refuseTaken_append, bind_assoc, bind_assoc]
  exact congrArg _ (funext fun _ => later)

theorem addBlank_atop (isLast : Bool) :
    (state.atop set).addBlank line isLast = (state.addBlank line isLast).map (atop set) := by
  rw [addBlank, addBlank]
  split
  · rfl
  · have body? : (state.atop set).body? = state.body? := rfl
    rw [body?]
    cases state.body? with
    | none => rfl
    | some body => exact bind_eq_map_right fun _ _ => rfl

theorem addText_atop (isLast : Bool) :
    (state.atop set).addText line isLast = (state.addText line isLast).map (atop set) := by
  rw [addText, addText]
  have body? : (state.atop set).body? = state.body? := rfl
  have inserting : (state.atop set).insideInsert = state.insideInsert := rfl
  rw [body?, inserting]
  cases state.body? with
  | none => rfl
  | some body =>
      dsimp only
      split
      · rfl
      · exact bind_eq_map_right fun _ _ => bind_eq_map_right fun _ _ => rfl

theorem closeRegion_atop : (state.atop set).closeRegion = state.closeRegion.map (atop set) :=
  bind_eq_map_right fun _ _ => rfl

theorem exit_atop (directive : Directive) :
    (state.atop set).exit source directive = (state.exit source directive).map (atop set) := by
  have replacements : (state.atop set).replacements = state.replacements := rfl
  rw [exit, exit, replacements]
  split
  · next name _ =>
      split
      · rfl
      · refine bind_eq_map_right fun body _ => ?_
        exact congrArg (fun finished => Except.ok { state with body? := none, finished })
          (TemplateSet.insert_union set state.finished name (body.template source))
  · split
    · rfl
    · exact @closeRegion_atop set { state with replacements := state.replacements.dropLast }
  · exact closeRegion_atop
  · exact @closeRegion_atop set { state with insideInsert := false }

theorem exitAll_atop (directives : List Directive) :
    (state.atop set).exitAll source directives = (state.exitAll source directives).map (atop set) := by
  induction directives generalizing state with
  | nil => rfl
  | cons directive rest ih =>
      have depth : (state.atop set).depth = state.depth := rfl
      rw [exitAll, exitAll, depth]
      split
      · rfl
      · exact bind_eq_map (@exit_atop set source { state with depth := state.depth - 1 } directive)
          fun _ _ => ih

/-- A directive that defines nothing does not see the templates. -/
theorem enter_atop_unnamed {directive : Directive} (unnamed : directive.name? = none) :
    (state.atop set).enter line directive = (state.enter line directive).map (atop set) := by
  have expects : (state.atop set).expectsDefine = state.expectsDefine := rfl
  have inserting : (state.atop set).insideInsert = state.insideInsert := rfl
  rw [enter, enter, expects]
  split
  · rfl
  · split
    · next name same => simp [Directive.name?, same] at unnamed
    · rw [inserting]
      split
      · rfl
      · exact bind_eq_map_right fun _ _ => rfl
    · rw [inserting]
      split
      · rfl
      · split
        · rfl
        · exact bind_eq_map_right fun _ _ => rfl
    · rw [inserting]
      split
      · rfl
      · exact bind_eq_map_right fun _ _ => bind_eq_map_right fun _ _ => rfl

/-- A definition that is entered is refused over a set that has its name. -/
theorem enter_atop_define {directive : Directive} {name : Text}
    (instruction : directive.instruction = .define name) (success : state.enter line directive = .ok next) :
    (state.atop set).enter line directive =
      if set.contains name then refuse directive (.duplicateName name) else .ok (next.atop set) := by
  have expects : (state.atop set).expectsDefine = state.expectsDefine := rfl
  have taken : (state.atop set).finished.contains name =
      (set.contains name || state.finished.contains name) := TemplateSet.contains_union _ _ _
  cases enter_ok success with
  | define defines top named free =>
      cases instruction.symm.trans defines
      rw [enter, expects, top, instruction]
      dsimp only
      rw [if_neg (by simp [Instruction.keyword]), if_neg (by decide),
        if_neg (by rw [named]; exact Bool.false_ne_true), taken, free, Bool.or_false]
      rfl
  | foreach other | replace other | insert other => cases instruction.symm.trans other

/-- A directive that is entered is entered over a set too, unless its name is taken. -/
theorem enter_atop {directive : Directive} (success : state.enter line directive = .ok next) :
    (state.atop set).enter line directive = atopAfter set [directive] next := by
  cases named : directive.name? with
  | none =>
      rw [enter_atop_unnamed named, success, atopAfter, refuseTaken]
      simp [Directive.isTaken, named]
      rfl
  | some name =>
      have instruction : directive.instruction = .define name := by
        unfold Directive.name? at named
        split at named
        · next other same =>
            cases named
            exact same
        all_goals cases named
      rw [enter_atop_define instruction success, atopAfter, refuseTaken]
      cases held : set.contains name <;> simp [Directive.isTaken, named, held, refuse] <;> rfl

theorem enterAll_atop {directives : List Directive}
    (success : state.enterAll line directives = .ok next) :
    (state.atop set).enterAll line directives = atopAfter set directives next := by
  induction directives generalizing state with
  | nil =>
      cases success
      rfl
  | cons directive rest ih =>
      obtain ⟨middle, entered, others⟩ := bind_ok success
      have later := ih others
      rw [enterAll, ← List.singleton_append]
      exact atopAfter_bind (enter_atop entered) later

/-- A line that is stepped over is stepped over with a set too, unless a name of its directives is
taken. -/
theorem step_atop {isLast : Bool} (success : state.step source line isLast = .ok next) :
    (state.atop set).step source line isLast = atopAfter set line.directives next := by
  have same {directives : List Directive} {outcome : Except Stop State} (none : directives = [])
      (success : outcome = .ok next) : outcome.map (atop set) = atopAfter set directives next := by
    rw [none, success]
    rfl
  cases step_ok success with
  | empty kind added =>
      rw [step, kind]
      exact (addBlank_atop isLast).trans (same (by rw [Line.directives, kind]) added)
  | regular kind added =>
      rw [step, kind]
      exact (addText_atop isLast).trans (same (by rw [Line.directives, kind]) added)
  | opening kind added =>
      rw [step, kind]
      exact (@addText_atop set (state.pushFrame line []) line isLast).trans
        (same (by rw [Line.directives, kind]) added)
  | directives kind parsed checked opened =>
      have check : (state.atop set).checkIndentation line = .ok () := checked
      rw [step, kind, Line.Opens.directives_eq (.directed kind parsed)]
      refine bind_of_ok parsed (bind_of_ok check ?_)
      rw [enterAll_atop opened, atopAfter, atopAfter, bind_assoc]
      rfl
  | @plainEnd _ frame others kind held plain added =>
      have frames : (state.atop set).frames = frame :: others := held
      rw [step_closing (Line.closes_iff.2 kind) frames, if_pos (List.isEmpty_iff.2 plain)]
      exact (@addText_atop set { state with frames := others } line isLast).trans
        (same (by rw [Line.directives, kind]) added)
  | @closing _ frame others kind held directed checked exited =>
      have frames : (state.atop set).frames = frame :: others := held
      have check : ({ state.atop set with frames := others } : State).checkIndentation line = .ok () := checked
      rw [step_closing (Line.closes_iff.2 kind) frames, if_neg (mt List.isEmpty_iff.1 directed)]
      refine bind_of_ok check ?_
      exact (@exitAll_atop set source { state with frames := others } _).trans
        (same (by rw [Line.directives, kind]) exited)

/-- Lines that are run over are run over with a set too, unless a name of their directives is taken. -/
theorem run_atop {atEnd : Bool} {lines : List Line}
    (success : state.run source atEnd lines = .ok next) :
    (state.atop set).run source atEnd lines = atopAfter set (lines.flatMap Line.directives) next := by
  induction lines generalizing state with
  | nil =>
      cases success
      rfl
  | cons line rest ih =>
      obtain ⟨middle, stepped, others⟩ := bind_ok success
      exact atopAfter_bind (step_atop stepped) (ih others)

end

end Assembly.State

end Stencil
