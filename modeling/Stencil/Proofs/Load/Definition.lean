/-
This file compares the two ways to load a text: in a definition it loads as the template that it is on its
own.
-/
import Stencil.Proofs.Assembly.LastLine
import Stencil.Proofs.Assembly.Nested
import Stencil.Proofs.Line.Definition
import Stencil.Proofs.Load.Locality

namespace Stencil

/-- A line break is added to moved pieces as to the pieces. -/
theorem Move.breakAfter_moved (move : Move) (line? : Option Line) (pieces : List Piece) :
    Assembly.breakAfter (line?.map move.line) (pieces.map move.piece) =
      (Assembly.breakAfter line? pieces).map move.piece := by
  cases line? with
  | none => rfl
  | some line =>
      have empty : (move.line line).kind = .empty ↔ line.kind = .empty := by
        cases kind : line.kind <;> simp [Move.line, Move.kind, kind]
      rw [Option.map_some, Assembly.breakAfter, Assembly.breakAfter]
      by_cases blank : line.kind = .empty
      · rw [if_pos blank, if_pos (empty.2 blank), List.map_append]
        rfl
      · rw [if_neg blank, if_neg (mt empty.1 blank), endLine_moved]

/-- The template of a moved body with a line break behind its last line. -/
theorem Move.template_breakAfter (move : Move) (source : Text) (line? : Option Line)
    (body : Assembly.Body) :
    ((move.body body).breakAfter (line?.map move.line)).template source =
      { source
        boundaries := body.boundaries
        pieces := ((Assembly.breakAfter line? body.pieces.toList).map move.piece).toArray
        siteCount := body.siteCount } := by
  rw [← breakAfter_moved, ← Array.toList_map]
  rfl

/-- A move keeps whether regions are balanced. -/
theorem Move.unbalanced_stop {move : Move} {stop : Stop} (unbalanced : (move.stop stop).Unbalanced) :
    stop.Unbalanced := by
  obtain ⟨place, same⟩ := unbalanced
  cases stop with
  | broken breach => rcases same with same | same <;> cases same
  | refused error =>
      cases error with
      | structural found fault =>
          rcases same with same | same
          · cases same
            exact ⟨found, .inl rfl⟩
          · cases same
            exact ⟨found, .inr rfl⟩
      | lexical | grammar | range | config | notUtf8 => rcases same with same | same <;> cases same

namespace Assembly.State

variable {source : Text} {name : Text} {line : Line} {column : Nat}

/-- The opening line of a definition starts the body of its template. -/
theorem step_define (nonempty : name ≠ []) (opens : line.Opens [⟨.define name, 0, column⟩])
    (flush : line.indentation = 0) :
    multiple.step source line false =
      .ok (single.nest ⟨line.number, 0, [⟨.define name, 0, column⟩]⟩ name) := by
  cases opens with
  | directed kind parsed =>
      have named : name.isEmpty = false := by simpa using nonempty
      rw [step, kind]
      dsimp only
      rw [parsed]
      change (multiple.enterAll line [⟨.define name, 0, column⟩] >>= fun next =>
        .ok (next.pushFrame line [⟨.define name, 0, column⟩])) = _
      have entered : multiple.enterAll line [⟨.define name, 0, column⟩] =
          .ok { multiple.withBody ⟨name, line.indentation, #[], #[], 0⟩ with depth := 1 } := by
        simp [enterAll, enter, expectsDefine, multiple, named, Instruction.keyword, withBody,
          TemplateSet.contains, TemplateSet.find?, TemplateSet.empty]
        rfl
      rw [entered, flush]
      change Except.ok (State.pushFrame _ _ _) = _
      rw [pushFrame, flush]
      rfl

/-- The closing line of a definition finishes its template. -/
theorem step_end {number : Nat} {body : Body} (base : body.base = 0) (closes : line.closes = true)
    (isLast : Bool) :
    ((single.withBody body).nest ⟨number, 0, [⟨.define name, 0, column⟩]⟩ name).step source line isLast =
      .ok { multiple with finished := TemplateSet.empty.insert name (body.template source) } := by
  have checked : State.checkIndentation { (single.withBody body).nest
      ⟨number, 0, [⟨.define name, 0, column⟩]⟩ name with frames := [] } line = .ok () := by
    simp [checkIndentation, relativeIndentation, nest, withBody, Body.rename, base]
  rw [step_closing closes rfl, if_neg (by simp)]
  refine (congrArg (· >>= _) checked).trans ?_
  rfl

/-- In a definition the moved lines of a text are run over as the text on its own, but the last of them has
its line break. -/
theorem run_nested (move : Move) (frame : Frame) (name : Text) {other : Text} {lines : List Line}
    (formed : ∀ line ∈ lines.map move.line, line.Formed ∧ line.Sliced source)
    (balanced : ∀ stop, single.run other true lines = .error stop → ¬stop.Unbalanced) :
    (single.nest frame name).run source false (lines.map move.line) =
      bimap move.stop
        (fun final => ((move.state source final).breakAfter (lines.getLast?.map move.line)).nest frame name)
        (single.run other true lines) := by
  have moved := move.run_moved source single other true lines
  rw [Move.state_single] at moved
  have broken := ended_single.run_break (fun line member => (formed line member).1) source
  rw [moved, map_bimap, List.getLast?_map] at broken
  rw [coherent_single.run_nest frame name rfl formed, broken, map_bimap]
  · rfl
  · intro stop failure unbalanced
    rw [broken] at failure
    cases ran : single.run other true lines with
    | ok final =>
        rw [ran] at failure
        cases failure
    | error reason =>
        rw [ran] at failure
        cases failure
        exact balanced reason ran (Move.unbalanced_stop unbalanced)

section

variable {move : Move} {other : Text} {lines : List Line} {opening closing : Line}

/-- A run over a definition runs over its lines inside the definition and then closes it. -/
theorem run_definition (nonempty : name ≠ []) (opens : opening.Opens [⟨.define name, 0, column⟩])
    (flush : opening.indentation = 0) (source : Text) (lines : List Line) (closing : Line) :
    multiple.run source true (opening :: (lines ++ [closing])) =
      (single.nest ⟨opening.number, 0, [⟨.define name, 0, column⟩]⟩ name).run source false lines >>=
        fun next => next.step source closing true := by
  have more : (true && (lines ++ [closing]).isEmpty) = false := by simp
  rw [run, more, step_define nonempty opens flush]
  change State.run _ _ _ (lines ++ [closing]) = _
  rw [run_append]
  congr 1
  funext next
  change (next.step source closing true >>= fun final => .ok final) = _
  cases next.step source closing true <;> rfl

/-- A definition of lines that make a single template makes this template. -/
theorem run_definition_ok (nonempty : name ≠ []) (opens : opening.Opens [⟨.define name, 0, column⟩])
    (flush : opening.indentation = 0) (closes : closing.closes = true)
    (formed : ∀ line ∈ lines.map move.line, line.Formed ∧ line.Sliced source) {body : Body}
    (base : body.base = 0) (success : single.run other true lines = .ok (single.withBody body)) :
    multiple.run source true (opening :: (lines.map move.line ++ [closing])) =
      .ok { multiple with
        finished := TemplateSet.empty.insert name
          (((move.body body).breakAfter (lines.getLast?.map move.line)).template source) } := by
  have nested := @run_nested source move ⟨opening.number, 0, [⟨.define name, 0, column⟩]⟩ name other lines
    formed fun stop failure => by rw [success] at failure; cases failure
  rw [success] at nested
  rw [run_definition nonempty opens flush, nested]
  exact @step_end source name closing column opening.number
    ((move.body body).breakAfter (lines.getLast?.map move.line)) base closes true

/-- A definition of lines at which a single template stops stops there. -/
theorem run_definition_error (nonempty : name ≠ []) (opens : opening.Opens [⟨.define name, 0, column⟩])
    (flush : opening.indentation = 0)
    (formed : ∀ line ∈ lines.map move.line, line.Formed ∧ line.Sliced source) {stop : Stop}
    (failure : single.run other true lines = .error stop) (balanced : ¬stop.Unbalanced) :
    multiple.run source true (opening :: (lines.map move.line ++ [closing])) =
      .error (move.stop stop) := by
  have nested := @run_nested source move ⟨opening.number, 0, [⟨.define name, 0, column⟩]⟩ name other lines
    formed fun other same => by
      rw [failure] at same
      cases same
      exact balanced
  rw [failure] at nested
  rw [run_definition nonempty opens flush, nested]
  rfl

end

end Assembly.State

section

variable {recogniser : Recogniser} {source : Text}

/-- A range that loads as one template is a run that ends in a body. -/
theorem Template.exists_run {start stop : Nat} {template : Template}
    (success : recogniser.template source start stop = .ok template) :
    ∃ lines body, recogniser.lines source start stop = .ok lines ∧
      Assembly.State.single.run source true lines = .ok (Assembly.State.single.withBody body) ∧
      body.base = 0 ∧ template = body.template source := by
  obtain ⟨final, loaded, made⟩ := bind_ok success
  obtain ⟨outline, classified, formed, ran⟩ := Assembly.State.exists_outline rfl loaded
  obtain ⟨body, rfl, _, growth⟩ :=
    (Assembly.State.inside_single.run_decided source outline formed true).effect_of_ok ran
  cases made
  exact ⟨outline.lines, body, classified, ran, growth.base, rfl⟩

/-- A range with balanced regions that is refused as one template is not classified, or its run stops. -/
theorem Template.stopped {start stop : Nat} {reason : Stop}
    (failure : recogniser.template source start stop = .error reason)
    (balanced : ¬reason.Unbalanced) :
    (∃ error, recogniser.lines source start stop = .error error ∧ reason = .refused error) ∨
      ∃ lines, recogniser.lines source start stop = .ok lines ∧
        Assembly.State.single.run source true lines = .error reason := by
  cases classified : recogniser.lines source start stop with
  | error error =>
      rw [Recogniser.template, Recogniser.finalState, classified] at failure
      cases failure
      exact .inl ⟨error, rfl, rfl⟩
  | ok lines =>
      refine .inr ⟨lines, rfl, ?_⟩
      rcases bind_error failure with stopped | ⟨final, _, unmade⟩
      · rw [Recogniser.finalState_eq classified] at stopped
        rcases bind_error stopped with failed | ⟨last, _, unfinished⟩
        · exact failed
        · unfold Assembly.State.finish at unfinished
          split at unfinished
          · cases unfinished
          · cases unfinished
            exact absurd ⟨_, .inr rfl⟩ balanced
      · rcases bind_error unmade with missing | ⟨body, _, made⟩
        · unfold Assembly.State.body at missing
          split at missing
          · cases missing
          · cases missing
            exact absurd failure (Recogniser.template_unbroken _)
        · cases made

/-- A text is classified as a range of its own. -/
theorem Recogniser.lines_whole (recogniser : Recogniser) (text : Text) :
    recogniser.lines text 0 (Text.byteSize text) = recogniser.classify 0 text := by
  rw [lines, Text.slice?_whole]

end

namespace Markers

variable (markers : Markers) {name body : Text}

/-- A definition is run over as its opening line, the moved lines of its body and its closing line. -/
theorem finalState_define (plain : name.PlainName)
    (terminated : body = [] ∨ ∃ text, body = text ++ ['\n']) {lines : List Line}
    (classified : markers.recogniser.lines body 0 (Text.byteSize body) = .ok lines) :
    ∃ opening closing column, opening.Opens [⟨.define name, 0, column⟩] ∧ opening.indentation = 0 ∧
      closing.closes = true ∧
      (∀ line ∈ lines.map (markers.bodyMove name).line,
        line.Formed ∧ line.Sliced (markers.define name body)) ∧
      markers.recogniser.finalState .multiple (markers.define name body) 0
          (Text.byteSize (markers.define name body)) =
        Assembly.State.multiple.run (markers.define name body) true
          (opening :: (lines.map (markers.bodyMove name).line ++ [closing])) >>=
            fun final => final.finish := by
  obtain ⟨opening, closing, column, opens, flush, closes, classifies⟩ :=
    markers.classify_define plain terminated
  rw [← Recogniser.lines_whole, ← Recogniser.lines_whole, classified] at classifies
  refine ⟨opening, closing, column, opens, flush, closes, fun line member => ?_,
    Recogniser.finalState_eq classifies .multiple⟩
  have inside : line ∈ opening :: (lines.map (markers.bodyMove name).line ++ [closing]) :=
    .tail _ (List.mem_append_left _ member)
  exact ⟨(Recogniser.lines_formed classifies line inside).1, Line.sliced_of_lines classifies line inside⟩

/-- A body that is not classified is not classified in its definition. -/
theorem finalState_define_error (plain : name.PlainName)
    (terminated : body = [] ∨ ∃ text, body = text ++ ['\n']) {error : Error}
    (classified : markers.recogniser.lines body 0 (Text.byteSize body) = .error error) :
    markers.recogniser.finalState .multiple (markers.define name body) 0
        (Text.byteSize (markers.define name body)) =
      .error (.refused ((markers.bodyMove name).error error)) := by
  obtain ⟨opening, closing, column, _, _, _, classifies⟩ := markers.classify_define plain terminated
  rw [← Recogniser.lines_whole, ← Recogniser.lines_whole, classified] at classifies
  rw [Recogniser.finalState, classifies]
  rfl

end Markers

/-- In a definition with a plain name a text that is empty or ends with a line feed loads as the template
that it is on its own, moved behind the opening line and with a line break behind its last line. A text that
is refused on its own, but not because its regions are unbalanced, is refused there for the same reason. -/
theorem definition_loads_as_template (markers : Markers) {name body : Text} (plain : name.PlainName)
    (terminated : body = [] ∨ body.getLast? = some '\n') :
    (∀ template, Template.load markers body 0 (Text.byteSize body) = .ok template →
      ∃ lines set, Line.ofRange markers body 0 (Text.byteSize body) = .ok lines ∧
        TemplateSet.load markers (markers.define name body) 0
          (Text.byteSize (markers.define name body)) = .ok set ∧
        set.entries = [(name,
          { source := markers.define name body
            boundaries := template.boundaries
            pieces := ((Assembly.breakAfter lines.getLast? template.pieces.toList).map
              (markers.bodyMove name).piece).toArray
            siteCount := template.siteCount })]) ∧
    ∀ stop, Template.load markers body 0 (Text.byteSize body) = .error stop → ¬stop.Unbalanced →
      TemplateSet.load markers (markers.define name body) 0
        (Text.byteSize (markers.define name body)) = .error ((markers.bodyMove name).stop stop) := by
  have ended : body = [] ∨ ∃ text, body = text ++ ['\n'] :=
    terminated.imp_right List.getLast?_eq_some_iff.1
  constructor
  · intro template success
    obtain ⟨lines, made, classified, ran, base, rfl⟩ := Template.exists_run success
    obtain ⟨opening, closing, column, opens, flush, closes, formed, loaded⟩ :=
      markers.finalState_define plain ended classified
    refine ⟨lines, TemplateSet.empty.insert name _, classified, ?_, congrArg (fun made => [(name, made)])
      (Move.template_breakAfter (markers.bodyMove name) (markers.define name body) lines.getLast? made)⟩
    rw [TemplateSet.load, Recogniser.templates, loaded,
      Assembly.State.run_definition_ok plain.nonempty opens flush closes formed base ran]
    rfl
  · intro stop failure balanced
    rcases Template.stopped failure balanced with ⟨error, classified, rfl⟩ | ⟨lines, classified, ran⟩
    · rw [TemplateSet.load, Recogniser.templates, markers.finalState_define_error plain ended classified]
      rfl
    · obtain ⟨opening, closing, column, opens, flush, _, formed, loaded⟩ :=
        markers.finalState_define plain ended classified
      rw [TemplateSet.load, Recogniser.templates, loaded,
        Assembly.State.run_definition_error plain.nonempty opens flush formed ran balanced]
      rfl

/-- A text with a replacement and a blank last line. -/
def blankEnd : Text := "#region TEMPLATE REPLACE(`a`, $x)\n  ba\n#endregion\n \n".toList

/-- A text with an insertion in an insertion. -/
def insertedTwice : Text := "x\n#region TEMPLATE INSERT($a) INSERT($b)\n#endregion\n".toList

theorem definition_loads_as_template_blank :
    Markers.standard.define ['t'] blankEnd =
      ("#region TEMPLATE DEFINE(\"t\")\n#region TEMPLATE REPLACE(`a`, $x)\n  ba\n" ++
        "#endregion\n \n#endregion\n").toList ∧
    (∃ template set, Template.load .standard blankEnd 0 52 = .ok template ∧
      TemplateSet.load .standard (Markers.standard.define ['t'] blankEnd) 0 92 = .ok set ∧
      template.pieces.toList.map (fun piece => (piece.start, piece.startsNewLine)) =
        [(36, false), (37, true)] ∧
      set.entries.map (fun entry => (entry.1,
          entry.2.pieces.toList.map fun piece => (piece.start, piece.startsNewLine))) =
        [(['t'], [(65, false), (66, true), (79, true)])] ∧
      set.entries.map (fun entry => entry.2.boundaries) = [template.boundaries]) ∧
    Template.load .standard insertedTwice 0 52 = .error (.refused (.structural ⟨1, 28⟩ .insideInsert)) ∧
    TemplateSet.load .standard (Markers.standard.define ['t'] insertedTwice) 0 92 =
      .error (.refused (.structural ⟨2, 28⟩ .insideInsert)) := by
  have plain : Text.PlainName ['t'] := ⟨by decide, by decide, by decide, by decide, by decide⟩
  have blank := definition_loads_as_template .standard plain
    (.inr (by decide +kernel : blankEnd.getLast? = some '\n'))
  have twice := definition_loads_as_template .standard plain
    (.inr (by decide +kernel : insertedTwice.getLast? = some '\n'))
  rw [(by decide +kernel : Text.byteSize blankEnd = 52),
    (by decide +kernel : Text.byteSize (Markers.standard.define ['t'] blankEnd) = 92)] at blank
  rw [(by decide +kernel : Text.byteSize insertedTwice = 52),
    (by decide +kernel : Text.byteSize (Markers.standard.define ['t'] insertedTwice) = 92)] at twice
  have pieces : (Template.load .standard blankEnd 0 52).toOption.map
      (fun template => template.pieces.toList.map fun piece => (piece.start, piece.startsNewLine)) =
        some [(36, false), (37, true)] := by decide +kernel
  have defined : (TemplateSet.load .standard (Markers.standard.define ['t'] blankEnd) 0 92).toOption.map
      (fun set => set.entries.map fun entry => (entry.1,
        entry.2.pieces.toList.map fun piece => (piece.start, piece.startsNewLine))) =
          some [(['t'], [(65, false), (66, true), (79, true)])] := by decide +kernel
  have refused : Template.load .standard insertedTwice 0 52 =
      .error (.refused (.structural ⟨1, 28⟩ .insideInsert)) := by decide +kernel
  obtain ⟨template, loaded, spans⟩ := exists_ok pieces
  obtain ⟨_, set, _, loadedSet, entries⟩ := blank.1 template loaded
  obtain ⟨other, same, names⟩ := exists_ok defined
  rw [loadedSet] at same
  cases same
  refine ⟨by decide +kernel, ⟨template, set, loaded, loadedSet, spans, names, ?_⟩, refused,
    twice.2 _ refused ?_⟩
  · rw [entries]
    rfl
  · rintro ⟨place, same | same⟩ <;> cases same

end Stencil
