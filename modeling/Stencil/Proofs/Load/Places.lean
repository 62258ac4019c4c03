/-
This file shows that every error of a load has a place in the text that is loaded, and that its cause stands there.
-/
import Stencil.Proofs.Assembly.Blame
import Stencil.Proofs.Load.Safety

namespace Stencil

/-- A line is classified in a text that starts at a byte offset. -/
def Text.HasLine (markers : Markers) (offset : Nat) (text : Text) (line : Line) : Prop :=
  ∃ lines, markers.recogniser.classify offset text = .ok lines ∧ line ∈ lines

/-- What an error is about stands at its place in a text: a character that no directive text may have, the token
that is at fault or the end of the directive text, the keyword of a directive, or what follows the spaces before a
line. -/
inductive Text.Shows (markers : Markers) (offset : Nat) (text : Text) : Error → Prop where
  | character {place : Place} {fault : LexicalFault} (refuses : text.Refuses markers place fault) :
      Shows markers offset text (.lexical place fault)
  | token {line : Line} {begin : Nat} {tokens : List Token} {token : Token} {fault : GrammarFault}
      {before rest : Text} (has : text.HasLine markers offset line)
      (kind : line.kind = .directives begin tokens) (member : token ∈ tokens) (atFault : token.AtFault fault)
      (cut : text.CutAt token.place before (token.text ++ rest))
      (ends : token.kind = .endOfLine → token.text = [] ∧ line.EndsAt markers token.column rest) :
      Shows markers offset text (.grammar token.place fault)
  | keyword {line : Line} {begin : Nat} {tokens : List Token} {directives : List Directive}
      {directive : Directive} {token : Token} {fault : StructureFault} {before rest : Text}
      (has : text.HasLine markers offset line) (kind : line.kind = .directives begin tokens)
      (parsed : Directive.parse line.number line.start tokens = .ok directives)
      (inside : directive ∈ directives) (about : fault.About directive)
      (member : token ∈ tokens) (keyword : directive.IsKeyword token)
      (cut : text.CutAt ⟨directive.line, directive.column⟩ before (token.text ++ rest)) :
      Shows markers offset text (.structural ⟨directive.line, directive.column⟩ fault)
  | layout {line : Line} {fault : StructureFault} {first : Char} {rest : Text}
      (has : text.HasLine markers offset line) (ofLine : fault.OfLine line) (solid : first ≠ ' ')
      (cut : text.CutAt ⟨line.number, line.indentation⟩ (List.replicate line.indentation ' ')
        (first :: rest)) :
      Shows markers offset text (.structural ⟨line.number, line.indentation⟩ fault)

section

variable {markers : Markers} {source text : Text} {start stop offset : Nat}

/-- What an error shows stands at a place of the text. -/
theorem Text.Shows.exists_cutAt {error : Error} (shows : text.Shows markers offset error) :
    ∃ place before rest, error.place? = some place ∧ text.CutAt place before rest := by
  cases shows with
  | character refuses =>
      cases refuses with
      | tab cut => exact ⟨_, _, _, rfl, cut⟩
      | unexpected _ _ _ _ _ cut => exact ⟨_, _, _, rfl, cut⟩
  | token _ _ _ _ cut _ => exact ⟨_, _, _, rfl, cut⟩
  | keyword _ _ _ _ _ _ _ cut => exact ⟨_, _, _, rfl, cut⟩
  | layout _ _ _ cut => exact ⟨_, _, _, rfl, cut⟩

/-- A text with a line shows the errors that the line is the cause of. -/
theorem Text.HasLine.shows {line : Line} (has : text.HasLine markers offset line) {error : Error}
    (blames : line.Blames error) : text.Shows markers offset error := by
  obtain ⟨lines, classified, member⟩ := has
  obtain ⟨formed, row, _, found, isRow⟩ := Line.exists_row classified member
  cases blames with
  | token kind inside atFault =>
      obtain ⟨_, before, rest, cut, ends⟩ := isRow.token_cut found kind inside
      exact .token ⟨lines, classified, member⟩ kind inside atFault cut ends
  | directive opens inside about =>
      cases opens with
      | plain => cases inside
      | directed kind parsed =>
          have keywords := Directive.parse_keywords (fun _ among => (isRow.token_cut found kind among).1) parsed
          obtain ⟨token, among, keyword⟩ := Directive.exists_keyword keywords inside
          obtain ⟨_, before, rest, cut, _⟩ := isRow.token_cut found kind among
          rw [keyword.place] at cut
          exact .keyword ⟨lines, classified, member⟩ kind parsed inside about among keyword cut
  | layout ofLine =>
      obtain ⟨first, rest, solid, cut⟩ := isRow.indentation_cut formed found ofLine.notEmpty
      exact .layout ⟨lines, classified, member⟩ ofLine solid cut

/-- A range is walked over, or its text shows the error. -/
theorem Recogniser.finalState_explained (cut : Text.slice? source start stop = some text)
    {state : Assembly.State} (closed : state.frames = []) :
    Explained (markers.recogniser.finalState state source start stop) (text.Shows markers start) := by
  have lines : markers.recogniser.lines source start stop = markers.recogniser.classify start text := by
    rw [Recogniser.lines, cut]
  cases classified : markers.recogniser.classify start text with
  | error error =>
      obtain ⟨place, fault, rfl, refuses⟩ := Line.classify_refused classified
      exact .of_error (by rw [finalState, lines, classified]; rfl) (.character refuses)
  | ok found =>
      rw [finalState, lines, classified]
      intro error failure
      have known : ∀ frame ∈ state.frames, ∃ line ∈ found, frame.IsOf line := by
        rw [closed]
        exact List.forall_mem_nil _
      obtain ⟨line, member, blames⟩ :=
        Assembly.State.walk_finish_explained source (fun _ member => member) known error failure
      exact Text.HasLine.shows ⟨found, classified, member⟩ blames

theorem Template.load_explained (cut : Text.slice? source start stop = some text) :
    Explained (Template.load markers source start stop) (text.Shows markers start) :=
  (Recogniser.finalState_explained cut rfl).bind fun state _ =>
    state.body_explained.bind fun _ _ => .of_ok rfl

theorem TemplateSet.load_explained (cut : Text.slice? source start stop = some text) :
    Explained (TemplateSet.load markers source start stop) (text.Shows markers start) :=
  (Recogniser.finalState_explained cut rfl).bind fun _ _ => .of_ok rfl

end

/-- When a range that is a slice of its source does not load, it is refused with an error at a place of the text:
a row has the number of the place, and the column is a boundary in it. What the error is about stands there. Each
token of a line has its place in the line, and each directive the place of its keyword. -/
theorem load_error_shows_cause (markers : Markers) {source text : Text} {start stop : Nat}
    (cut : Text.slice? source start stop = some text) :
    (∀ fault, Template.load markers source start stop = .error fault ∨
        TemplateSet.load markers source start stop = .error fault →
      ∃ error place before rest, fault = .refused error ∧ error.place? = some place ∧
        text.CutAt place before rest ∧ text.Shows markers start error) ∧
    ∀ lines, Line.ofRange markers source start stop = .ok lines →
      ∀ line ∈ lines, ∀ begin tokens, line.kind = .directives begin tokens →
        (∀ token ∈ tokens, token.InLine line.number line.start) ∧
        ∀ directives, Directive.parse line.number line.start tokens = .ok directives →
          List.SublistForall₂ Directive.IsKeyword directives tokens := by
  refine ⟨fun fault failure => ?_, fun lines success line member begin tokens kind => ?_⟩
  · have refused : ∃ error, fault = .refused error ∧ text.Shows markers start error := by
      cases fault with
      | broken breach =>
          rcases failure with single | multiple
          · exact absurd single (Recogniser.template_unbroken breach)
          · exact absurd multiple (Recogniser.templates_unbroken breach)
      | refused error =>
          refine ⟨error, rfl, ?_⟩
          rcases failure with single | multiple
          · exact Template.load_explained cut error single
          · exact TemplateSet.load_explained cut error multiple
    obtain ⟨error, rfl, shows⟩ := refused
    obtain ⟨place, before, rest, placed, stands⟩ := shows.exists_cutAt
    exact ⟨error, place, before, rest, rfl, placed, stands, shows⟩
  · have classified : markers.recogniser.classify start text = .ok lines := by
      rw [Line.ofRange, Recogniser.lines, cut] at success
      exact success
    obtain ⟨_, row, _, found, isRow⟩ := Line.exists_row classified member
    have placed : ∀ token ∈ tokens, token.InLine line.number line.start := fun token among =>
      (isRow.token_cut found kind among).1
    exact ⟨placed, fun directives parsed => Directive.parse_keywords placed parsed⟩

/-- A text with an insertion before a definition, behind blanks of several bytes. -/
def misplacedDirectives : Text := "é\n\u00a0#region TEMPLATE INSERT($a) DEFINE(\"ä\")\n  b\n".toList

theorem load_error_shows_cause_misplaced :
    ∃ text, Text.slice? misplacedDirectives 2 50 = some text ∧
      Template.load .standard misplacedDirectives 2 50 =
        .error (.refused (.structural ⟨1, 30⟩ .misplacedDefine)) ∧
      TemplateSet.load .standard misplacedDirectives 2 50 =
        .error (.refused (.structural ⟨1, 19⟩ (.expectedDefine .insert))) ∧
      text.Shows .standard 2 (.structural ⟨1, 30⟩ .misplacedDefine) ∧
      text.Shows .standard 2 (.structural ⟨1, 19⟩ (.expectedDefine .insert)) := by
  have cut : Text.slice? misplacedDirectives 2 50 = some (misplacedDirectives.drop 1) := by decide +kernel
  have single : Template.load .standard misplacedDirectives 2 50 =
      .error (.refused (.structural ⟨1, 30⟩ .misplacedDefine)) := by decide +kernel
  have multiple : (TemplateSet.load .standard misplacedDirectives 2 50).map TemplateSet.names =
      .error (.refused (.structural ⟨1, 19⟩ (.expectedDefine .insert))) := by decide +kernel
  obtain ⟨places, _⟩ := load_error_shows_cause .standard cut
  obtain ⟨_, _, _, _, same, _, _, first⟩ := places _ (.inl single)
  obtain ⟨_, _, _, _, also, _, _, second⟩ := places _ (.inr (map_error multiple))
  cases same
  cases also
  exact ⟨_, cut, single, map_error multiple, first, second⟩

end Stencil
