/-
This file loads the templates of two texts from one text that has the second behind the first.
-/
import Stencil.Proofs.Assembly.LastLine
import Stencil.Proofs.Assembly.Named
import Stencil.Proofs.Line.Joined
import Stencil.Proofs.Load.Basic
import Stencil.Proofs.Load.Definition
import Stencil.Proofs.Move.Assembly

namespace Stencil

/-- The text is empty or ends with a line feed. -/
def Text.EndsLine (text : Text) : Prop := text = [] ∨ ∃ before, text = before ++ ['\n']

theorem Line.Draft.read_number (draft : Draft) (text : Text) :
    (draft.read text).number = draft.number + text.count '\n' := by
  induction text generalizing draft with
  | nil => rfl
  | cons character rest ih =>
      rw [read, ih, List.count_cons]
      by_cases feed : character = '\n'
      · simp [feed, next, Nat.add_assoc, Nat.add_comm 1]
      · simp [feed, push]

/-- Behind a text that ends its last line, a fresh line is in progress. -/
theorem Text.EndsLine.read {text : Text} (ends : text.EndsLine) :
    (Line.Draft.fresh 0 0).read text = Line.Draft.fresh (text.count '\n') (byteSize text) := by
  obtain ⟨number, start, same⟩ : ∃ number start,
      (Line.Draft.fresh 0 0).read text = Line.Draft.fresh number start := by
    rcases ends with rfl | ⟨before, rfl⟩
    · exact ⟨0, 0, rfl⟩
    · exact Line.Draft.read_terminated _ before
  obtain ⟨earlier, whole, starts⟩ := (Line.Draft.formed_fresh 0 0).read_split text
  have counted := (Line.Draft.fresh 0 0).read_number text
  rw [same] at whole starts counted ⊢
  obtain rfl : text = earlier := by simpa [Line.Draft.fresh] using whole
  have starts : start = byteSize text := by simpa [Line.Draft.fresh] using starts
  have counted : number = text.count '\n' := by simpa [Line.Draft.fresh] using counted
  rw [starts, counted]

/-- The template with its pieces in another source, where they have the same offsets. -/
def Template.withSource (source : Text) (template : Template) : Template := { template with source }

/-- Two templates are one template that is moved to two places. -/
def Template.Shifted (first second : Template) : Prop :=
  ∃ (template : Template) (move other : Move),
    first = move.template first.source template ∧ second = other.template second.source template

/-- The move of a text to the place behind another. -/
def Move.behind (first : Text) : Move := ⟨first.count '\n', Text.byteSize first⟩

namespace Move

theorem template_still (source : Text) (template : Template) :
    Move.template ⟨0, 0⟩ source template = template.withSource source := by
  have piece (piece : Piece) : Move.piece ⟨0, 0⟩ piece = piece := by
    simp [Move.piece, Span.shift]
  simp [Move.template, Template.withSource, funext piece]

theorem line_still (line : Line) : Move.line ⟨0, 0⟩ line = line := by
  have token (token : Token) : Move.token ⟨0, 0⟩ token = token := rfl
  have kind (kind : Line.Kind) : Move.kind ⟨0, 0⟩ kind = kind := by
    cases kind <;> simp [Move.kind, funext token]
  simp [Move.line, kind]

theorem name?_moved (move : Move) (directive : Directive) :
    (move.directive directive).name? = directive.name? := rfl

/-- The directives of a moved line are the moved directives. -/
theorem directives_moved (move : Move) (line : Line) :
    (move.line line).directives = line.directives.map move.directive := by
  cases kind : line.kind with
  | directives start tokens =>
      have moved : (move.line line).kind = .directives (start + move.right) (tokens.map move.token) :=
        congrArg move.kind kind
      rw [Line.directives, Line.directives, moved, kind]
      dsimp only
      rw [show (move.line line).number = line.number + move.down from rfl,
        show (move.line line).start = line.start + move.right from rfl, parse_moved]
      cases Directive.parse line.number line.start tokens <;> rfl
  | empty | opening | closing | regular =>
      have moved := congrArg move.kind kind
      change (move.line line).kind = _ at moved
      rw [Line.directives, Line.directives, moved, kind]
      rfl

/-- Of moved directives the first with a taken name is the moved one. -/
theorem refuseTaken_moved (move : Move) (change : Template → Template) (set : TemplateSet)
    (directives : List Directive) :
    Assembly.State.refuseTaken (set.map change) (directives.map move.directive) =
      bimap move.stop id (Assembly.State.refuseTaken set directives) := by
  have taken (directive : Directive) :
      Directive.isTaken (set.map change) (move.directive directive) = directive.isTaken set := by
    rw [Directive.isTaken, Directive.isTaken, name?_moved, funext (TemplateSet.contains_map change set)]
  have found : (directives.map move.directive).find? (Directive.isTaken (set.map change)) =
      (directives.find? (Directive.isTaken set)).map move.directive := by
    rw [List.find?_map]
    exact congrArg (Option.map move.directive) (congrArg (List.find? · directives) (funext taken))
  rw [Assembly.State.refuseTaken, Assembly.State.refuseTaken, found]
  cases directives.find? (Directive.isTaken set) <;> rfl

end Move

/-- No directive has a taken name exactly if no name of the set is given by one. -/
theorem Directive.find?_isTaken_eq_none {set : TemplateSet} {directives : List Directive} :
    directives.find? (Directive.isTaken set) = none ↔
      ∀ name ∈ set.names, name ∉ directives.filterMap Directive.name? := by
  simp only [List.find?_eq_none, isTaken, Option.any_eq_true, TemplateSet.contains_iff, List.mem_filterMap,
    not_exists, not_and]
  exact ⟨fun free name held directive member named => free directive member name named held,
    fun free directive member name named held => free name held directive member named⟩

section

variable {recogniser : Recogniser} {first second : Text}

/-- The lines of two texts are those of the first and then those of the second, moved behind it. -/
theorem Recogniser.lines_append (ends : first.EndsLine) :
    recogniser.lines (first ++ second) 0 (Text.byteSize (first ++ second)) =
      recogniser.lines first 0 (Text.byteSize first) >>= fun lines =>
        (bimap (Move.behind first).error (List.map (Move.behind first).line)
          (recogniser.lines second 0 (Text.byteSize second))).map (lines ++ ·) := by
  have complete : ((Line.Draft.fresh 0 0).read first).reversed = [] := by rw [ends.read]; rfl
  have behind : (Line.Draft.fresh 0 0).read first =
      (Move.behind first).draft (Line.Draft.fresh 0 0) := by
    rw [ends.read]
    simp [Move.draft, Move.behind, Line.Draft.fresh]
  simp only [lines_whole, classify]
  refine (Line.classifyFrom_append complete second).trans ?_
  rw [behind, Move.classifyFrom_moved]
  rfl

/-- A text that defines templates is run over from the top level and leads back to it. -/
theorem TemplateSet.exists_run {source : Text} {set : TemplateSet}
    (success : recogniser.templates source 0 (Text.byteSize source) = .ok set) :
    ∃ lines, recogniser.lines source 0 (Text.byteSize source) = .ok lines ∧
      ∀ atEnd, Assembly.State.multiple.run source atEnd lines =
        .ok { Assembly.State.multiple with finished := set } := by
  obtain ⟨final, loaded, made⟩ := bind_ok success
  obtain ⟨outline, classified, formed, ran⟩ := Assembly.State.exists_outline rfl loaded
  obtain ⟨templates, rfl, _⟩ :=
    (Assembly.State.outside_multiple.run_decided source outline formed true).effect_of_ok ran
  cases made
  refine ⟨outline.lines, classified, fun atEnd => ?_⟩
  cases atEnd with
  | true => exact ran
  | false =>
      have ended : Assembly.State.multiple.Ended := fun body hasBody => nomatch hasBody
      rw [ended.run_break formed source, ran]
      exact congrArg Except.ok (Assembly.State.breakAfter_outside rfl _)

/-- Behind a text whose templates are loaded the templates of the other are loaded, unless one of its
directives has a name that is taken. -/
theorem TemplateSet.load_append (ends : first.EndsLine) {set other : TemplateSet} {lines : List Line}
    (loads : recogniser.templates first 0 (Text.byteSize first) = .ok set)
    (others : recogniser.templates second 0 (Text.byteSize second) = .ok other)
    (classified : recogniser.lines second 0 (Text.byteSize second) = .ok lines) :
    recogniser.templates (first ++ second) 0 (Text.byteSize (first ++ second)) =
      bimap (Move.behind first).stop
        (fun _ => (set.map (Template.withSource (first ++ second))).union
          (other.map ((Move.behind first).template (first ++ second))))
        (Assembly.State.refuseTaken set (lines.flatMap Line.directives)) := by
  obtain ⟨linesFirst, classifiedFirst, run⟩ := TemplateSet.exists_run loads
  obtain ⟨_, same, runSecond⟩ := TemplateSet.exists_run others
  cases classified.symm.trans same
  generalize source : first ++ second = whole
  have lines_whole : recogniser.lines whole 0 (Text.byteSize whole) =
      .ok (linesFirst ++ lines.map (Move.behind first).line) := by
    have appended := @Recogniser.lines_append recogniser first second ends
    rw [classifiedFirst, classified, source] at appended
    exact appended
  have here (atEnd : Bool) : Assembly.State.multiple.run whole atEnd linesFirst =
      .ok (Assembly.State.multiple.atop (set.map (Template.withSource whole))) := by
    have moved := Move.run_moved ⟨0, 0⟩ whole .multiple first atEnd linesFirst
    rw [run, funext Move.line_still, List.map_id'] at moved
    rw [← funext (Move.template_still whole)]
    exact moved
  have there : Assembly.State.multiple.run whole true (lines.map (Move.behind first).line) =
      .ok { Assembly.State.multiple with finished := other.map ((Move.behind first).template whole) } := by
    have moved := (Move.behind first).run_moved whole .multiple second true lines
    rw [runSecond] at moved
    exact moved
  have directives : (lines.map (Move.behind first).line).flatMap Line.directives =
      (lines.flatMap Line.directives).map (Move.behind first).directive := by
    rw [List.flatMap_map, List.map_flatMap]
    exact congrArg (List.flatMap · lines) (funext (Move.behind first).directives_moved)
  rw [Recogniser.templates, Recogniser.finalState_eq lines_whole, Assembly.State.run_append]
  change ((_ >>= _) >>= _) >>= _ = _
  rw [here, bind_assoc, bind_assoc]
  refine bind_of_ok rfl ?_
  rw [Assembly.State.run_atop there, Assembly.State.atopAfter, directives, Move.refuseTaken_moved,
    bind_assoc]
  cases Assembly.State.refuseTaken set (lines.flatMap Line.directives) <;> rfl

/-- A range defines the templates that its directives name. -/
theorem TemplateSet.names_iff {source : Text} {set : TemplateSet} {lines : List Line}
    (success : recogniser.templates source 0 (Text.byteSize source) = .ok set)
    (classified : recogniser.lines source 0 (Text.byteSize source) = .ok lines) {name : Text} :
    name ∈ set.names ↔ name ∈ (lines.flatMap Line.directives).filterMap Directive.name? := by
  obtain ⟨_, same, run⟩ := TemplateSet.exists_run success
  cases classified.symm.trans same
  have defines := Assembly.State.run_defines (run true) name
  simpa [Assembly.State.Defines, Assembly.State.opened, Assembly.State.multiple, names, empty]
    using defines

/-- Two sets without a common name are both loaded from one text. -/
theorem TemplateSet.load_apart (ends : first.EndsLine) {set other : TemplateSet}
    (loads : recogniser.templates first 0 (Text.byteSize first) = .ok set)
    (others : recogniser.templates second 0 (Text.byteSize second) = .ok other)
    (apart : ∀ name ∈ set.names, name ∉ other.names) :
    recogniser.templates (first ++ second) 0 (Text.byteSize (first ++ second)) =
      .ok ((set.map (Template.withSource (first ++ second))).union
        (other.map ((Move.behind first).template (first ++ second)))) := by
  obtain ⟨lines, classified, _⟩ := TemplateSet.exists_run others
  have none : (lines.flatMap Line.directives).find? (Directive.isTaken set) = none :=
    Directive.find?_isTaken_eq_none.2 fun name held =>
      mt (TemplateSet.names_iff others classified).2 (apart name held)
  rw [TemplateSet.load_append ends loads others classified, Assembly.State.refuseTaken, none]
  rfl

end

/-- A template that is moved to two places is shifted. -/
theorem Option.rel_shifted (template? : Option Template) (move other : Move) (source back : Text) :
    Option.Rel Template.Shifted (template?.map (move.template source))
      (template?.map (other.template back)) := by
  cases template? with
  | none => exact .none
  | some template => exact .some ⟨template, move, other, rfl, rfl⟩

/-- Two texts, of which the first ends its last line, define templates. If the sets have no common name, the
text of both defines the templates of both, those of the second moved behind the first, and so up to offsets
the order of the texts does not matter. Else it is refused at the first directive of the second text that
gives a name of the first. -/
theorem templates_concatenate (recogniser : Recogniser) {first second : Text} (ends : first.EndsLine)
    {set other : TemplateSet} (loads : recogniser.templates first 0 (Text.byteSize first) = .ok set)
    (others : recogniser.templates second 0 (Text.byteSize second) = .ok other) :
    ((∀ name ∈ set.names, name ∉ other.names) →
      recogniser.templates (first ++ second) 0 (Text.byteSize (first ++ second)) =
        .ok ((set.map (Template.withSource (first ++ second))).union
          (other.map ((Move.behind first).template (first ++ second))))) ∧
    ((∃ name ∈ set.names, name ∈ other.names) → ∃ lines directive name,
      recogniser.lines second 0 (Text.byteSize second) = .ok lines ∧
      (lines.flatMap Line.directives).find? (Directive.isTaken set) = some directive ∧
      directive.instruction = .define name ∧
      recogniser.templates (first ++ second) 0 (Text.byteSize (first ++ second)) =
        .error (.refused (.structural ⟨directive.line + first.count '\n', directive.column⟩
          (.duplicateName name)))) ∧
    ((∀ name ∈ set.names, name ∉ other.names) → second.EndsLine → ∃ joined swapped,
      recogniser.templates (first ++ second) 0 (Text.byteSize (first ++ second)) = .ok joined ∧
      recogniser.templates (second ++ first) 0 (Text.byteSize (second ++ first)) = .ok swapped ∧
      ∀ name, Option.Rel Template.Shifted (joined.find? name) (swapped.find? name)) := by
  refine ⟨TemplateSet.load_apart ends loads others, ?_, fun apart endsSecond => ?_⟩
  · rintro ⟨name, held, common⟩
    obtain ⟨lines, classified, _⟩ := TemplateSet.exists_run others
    have given := (TemplateSet.names_iff others classified).1 common
    cases found : (lines.flatMap Line.directives).find? (Directive.isTaken set) with
    | none => exact absurd given (Directive.find?_isTaken_eq_none.1 found name held)
    | some directive =>
        have isTaken : directive.isTaken set = true := List.find?_some found
        obtain ⟨taken, named, _⟩ := (Option.any_eq_true _ _).1 isTaken
        refine ⟨lines, directive, taken, classified, found, Directive.name?_eq_some.1 named, ?_⟩
        rw [TemplateSet.load_append ends loads others classified, Assembly.State.refuseTaken, found]
        dsimp only
        rw [named]
        rfl
  · have back : ∀ name ∈ other.names, name ∉ set.names := fun name held taken => apart name taken held
    have swapped := TemplateSet.load_apart endsSecond others loads back
    have turned : ∀ name ∈ (set.map ((Move.behind second).template (second ++ first))).names,
        name ∉ (other.map (Template.withSource (second ++ first))).names := by
      rw [TemplateSet.names_map, TemplateSet.names_map]
      exact apart
    rw [← TemplateSet.union_comm turned] at swapped
    refine ⟨_, _, TemplateSet.load_apart ends loads others apart, swapped, fun name => ?_⟩
    rw [TemplateSet.find?_union, TemplateSet.find?_union, ← funext (Move.template_still _),
      ← funext (Move.template_still _)]
    simp only [TemplateSet.find?_map]
    cases held : other.find? name with
    | none => exact Option.rel_shifted (set.find? name) _ _ _ _
    | some template => exact Option.rel_shifted (some template) _ _ _ _

/-- A text that defines a template behind a line with a wide character. -/
def framedDefinition : Text :=
  "é\n#region TEMPLATE DEFINE(\"a\")\n  x\n#endregion\n".toList

/-- A text that defines another template. -/
def otherDefinition : Text := "#region TEMPLATE DEFINE(\"b\")\n#endregion\n".toList

/-- Two definitions are joined, and one that comes twice is refused at the second. -/
theorem templates_concatenate_twice :
    (∃ joined template, TemplateSet.load .standard (otherDefinition ++ framedDefinition) 0 87 = .ok joined ∧
      joined.contains ['b'] = true ∧ joined.find? ['a'] = some template ∧
      template.pieces.toList.map Piece.start = [74]) ∧
    TemplateSet.load .standard (framedDefinition ++ framedDefinition) 0 94 =
      .error (.refused (.structural ⟨5, 17⟩ (.duplicateName ['a']))) := by
  have size : Text.byteSize framedDefinition = 47 ∧ Text.byteSize otherDefinition = 40 ∧
      Text.byteSize (otherDefinition ++ framedDefinition) = 87 ∧
      Text.byteSize (framedDefinition ++ framedDefinition) = 94 := by decide +kernel
  have ends : framedDefinition.EndsLine := .inr ⟨framedDefinition.dropLast, by decide +kernel⟩
  have endsOther : otherDefinition.EndsLine := .inr ⟨otherDefinition.dropLast, by decide +kernel⟩
  obtain ⟨set, loads, names⟩ : ∃ set, TemplateSet.load .standard framedDefinition 0 47 = .ok set ∧
      (set.names, (set.find? ['a']).map fun template => template.pieces.toList.map Piece.start) =
        ([['a']], some [34]) := exists_ok (by decide +kernel)
  obtain ⟨other, loadsOther, otherNames⟩ : ∃ set, TemplateSet.load .standard otherDefinition 0 40 = .ok set ∧
      set.names = [['b']] := exists_ok (by decide +kernel)
  obtain ⟨lines, classified, defined⟩ : ∃ lines, Line.ofRange .standard framedDefinition 0 47 = .ok lines ∧
      lines.flatMap Line.directives = [⟨.define ['a'], 1, 17⟩] := exists_ok (by decide +kernel)
  obtain ⟨named, found⟩ := Prod.mk.inj names
  obtain ⟨template, held, starts⟩ := Option.map_eq_some_iff.1 found
  rw [← size.1] at loads classified
  rw [← size.2.1] at loadsOther
  constructor
  · have apart : ∀ name ∈ other.names, name ∉ set.names := by
      rw [named, otherNames]
      decide
    have joined := (templates_concatenate Markers.standard.recogniser endsOther loadsOther loads).1 apart
    rw [size.2.2.1] at joined
    refine ⟨_, (Move.behind otherDefinition).template (otherDefinition ++ framedDefinition) template, joined,
      ?_, ?_, ?_⟩
    · rw [TemplateSet.contains_union, TemplateSet.contains_map,
        TemplateSet.contains_iff.2 (otherNames ▸ List.mem_cons_self)]
      rfl
    · rw [TemplateSet.find?_union, TemplateSet.find?_map, held]
      rfl
    · have right : (Move.behind otherDefinition).right = 40 := size.2.1
      have moved := congrArg (List.map (· + 40)) starts
      rw [List.map_map] at moved
      rw [Move.template, Array.toList_map, List.map_map]
      simp only [Function.comp_def, Move.piece, right]
      exact moved
  · have common : ∃ name ∈ set.names, name ∈ set.names :=
      ⟨['a'], named ▸ List.mem_cons_self, named ▸ List.mem_cons_self⟩
    obtain ⟨others, directive, name, same, first, defines, refused⟩ :=
      (templates_concatenate Markers.standard.recogniser ends loads loads).2.1 common
    cases classified.symm.trans same
    rw [defined] at first
    have given := List.mem_singleton.1 (List.mem_of_find?_eq_some first)
    subst given
    cases defines
    rw [size.2.2.2] at refused
    exact refused

end Stencil
