/-
This file holds the text that puts the text of a single template into a definition, and its lines.
-/
import Stencil.Proofs.Directive.Definition
import Stencil.Proofs.Line.Joined
import Stencil.Proofs.Move.Line
import Stencil.Proofs.Outline.Basic
import Stencil.Proofs.Text.Word

namespace Stencil

namespace Text

theorem flush_of_isWord {word : Text} (isWord : Text.isWord word = true) : word.Flush := by
  obtain ⟨nonempty, solid⟩ := isWord_iff.1 isWord
  exact
    { head := ⟨word.head nonempty, List.head_mem_head? nonempty, solid _ (List.head_mem nonempty)⟩
      last := ⟨word.getLast nonempty, List.getLast_mem_getLast? nonempty,
        solid _ (List.getLast_mem nonempty)⟩
      noTab := not_mem_of_isWord isWord rfl
      noFeed := not_mem_of_isWord isWord rfl }

end Text

namespace Markers

variable (markers : Markers)

/-- The line that opens the definition of a template. -/
def opening (name : Text) : Text :=
  markers.regionStart ++ ' ' :: (markers.template ++ ' ' :: Directive.definition name)

/-- A text in the definition of a template. -/
def define (name body : Text) : Text :=
  markers.opening name ++ '\n' :: (body ++ (markers.regionEnd ++ ['\n']))

/-- The byte column of the directive text in the opening line. -/
def directiveColumn : Nat := Text.byteSize (markers.regionStart ++ ' ' :: (markers.template ++ [' ']))

/-- The opening line is recognised, with the directive text of the definition. -/
theorem recognise_opening (name : Text) :
    markers.recognise (markers.opening name) =
      some (.opening (some ⟨markers.directiveColumn, Directive.definition name⟩)) := by
  have template : Text.trimStart (' ' :: (markers.template ++ ' ' :: Directive.definition name)) =
      markers.template ++ ' ' :: Directive.definition name :=
    Text.trimStart_eq (Text.solid_of_isWord markers.templateIsWord _)
  have text : Text.trimStart (' ' :: Directive.definition name) = Directive.definition name := rfl
  have ending : Text.trimEnd (Directive.definition name) = Directive.definition name := by
    have last : Directive.definition name =
        Keyword.define.word ++ '(' :: '"' :: (name ++ ['"']) ++ [')'] := by
      simp [Directive.definition]
    rw [last]
    exact Text.trimEnd_concat rfl _
  have size : Text.byteSize (markers.opening name) - Text.byteSize (Directive.definition name) =
      markers.directiveColumn := by
    simp only [opening, directiveColumn, Text.byteSize_append, Text.byteSize_cons, Text.byteSize_nil]
    omega
  have start : (Text.dropWord? markers.regionStart (markers.opening name)).filter Text.atWordEnd =
      some (' ' :: (markers.template ++ ' ' :: Directive.definition name)) := by
    rw [opening, Text.dropWord?_append]
    rfl
  have atEnd : (Text.atWordEnd (' ' :: Directive.definition name) &&
      !(Directive.definition name).isEmpty) = true := rfl
  have content : Text.trimStart (markers.opening name) = markers.opening name :=
    Text.trimStart_eq (Text.solid_of_isWord markers.startIsWord _)
  rw [recognise, content, start]
  dsimp only
  rw [directives?, template, Text.dropWord?_append]
  dsimp only
  rw [text, if_pos atEnd, size, ending]

/-- A line of the end word closes a region. -/
theorem recognise_closing : markers.recognise markers.regionEnd = some .closing := by
  obtain ⟨_, solid⟩ := Text.isWord_iff.1 markers.endIsWord
  have content : Text.trimStart markers.regionEnd = markers.regionEnd :=
    Text.trimStart_eq fun first head => solid first (List.mem_of_mem_head? head)
  have noStart : (Text.dropWord? markers.regionStart markers.regionEnd).filter Text.atWordEnd =
      none := by
    refine Option.filter_eq_none_iff.2 fun after found => ?_
    have same := dropWord?_append found
    cases after with
    | nil =>
        rw [List.append_nil] at same
        exact absurd same.symm markers.startNeEnd
    | cons first rest =>
        rw [Text.atWordEnd, solid first (by rw [same]; simp)]
        exact Bool.false_ne_true
  have ending : (Text.dropWord? markers.regionEnd markers.regionEnd).filter Text.atWordEnd =
      some [] := by
    have whole := Text.dropWord?_append markers.regionEnd []
    rw [List.append_nil] at whole
    rw [whole]
    rfl
  rw [recognise, content, noStart, ending]

/-- The opening line of a definition with a plain name is one line. -/
theorem opening_flush {name : Text} (plain : name.PlainName) : (markers.opening name).Flush := by
  obtain ⟨nonempty, solid⟩ := Text.isWord_iff.1 markers.startIsWord
  have whole : markers.opening name = markers.regionStart ++ ' ' :: (markers.template ++
      ' ' :: (Keyword.define.word ++ '(' :: '"' :: (name ++ ['"']))) ++ [')'] := by
    simp [opening, Directive.definition]
  have absent {character : Char} (blank : Text.isBlank character = true) (notSpace : character ≠ ' ')
      (notName : character ∉ name) : character ∉ markers.opening name := by
    have start := Text.not_mem_of_isWord markers.startIsWord blank
    have template := Text.not_mem_of_isWord markers.templateIsWord blank
    have solid : (Keyword.define.word ++ ['(', '"', ')']).any Text.isBlank = false := rfl
    have word : character ∉ Keyword.define.word ++ ['(', '"', ')'] := fun member =>
      List.any_eq_false.1 solid character member blank
    simp only [List.mem_append, List.mem_cons, List.not_mem_nil, or_false, not_or] at word
    simp only [opening, Directive.definition, List.mem_append, List.mem_cons, List.not_mem_nil, or_false,
      not_or]
    exact ⟨start, notSpace, template, notSpace, word.1, word.2.1, word.2.2.1, notName, word.2.2.1,
      word.2.2.2⟩
  exact
    { head := ⟨markers.regionStart.head nonempty,
        by simp [opening, List.head?_append, List.head?_eq_some_head nonempty],
        solid _ (List.head_mem nonempty)⟩
      last := ⟨')', by rw [whole, List.getLast?_concat]; rfl, rfl⟩
      noTab := absent rfl (by decide) plain.noTab
      noFeed := absent rfl (by decide) plain.noFeed }

/-- Where the body of a definition stands. -/
def bodyMove (name : Text) : Move := ⟨1, Text.byteSize (markers.opening name) + 1⟩

/-- A definition has an opening line, the moved lines of its body and a closing line. -/
theorem classify_define {name body : Text} (plain : name.PlainName)
    (terminated : body = [] ∨ ∃ text, body = text ++ ['\n']) :
    ∃ opening closing column, opening.Opens [⟨.define name, 0, column⟩] ∧ opening.indentation = 0 ∧
      closing.closes = true ∧
      markers.recogniser.classify 0 (markers.define name body) =
        bimap (markers.bodyMove name).error
          (fun lines => opening :: (lines.map (markers.bodyMove name).line ++ [closing]))
          (markers.recogniser.classify 0 body) := by
  have flush := markers.opening_flush plain
  have flushEnd := Text.flush_of_isWord markers.endIsWord
  obtain ⟨tokens, scanned, parsed⟩ := Directive.parse_definition plain 0
    markers.directiveColumn (0 + markers.directiveColumn)
  have first := @Line.Draft.finish_directives markers.recogniser _ flush _
    (markers.recognise_opening name) 0 0 tokens scanned
  have next : ((Line.Draft.fresh 0 0).read (markers.opening name)).next =
      (markers.bodyMove name).draft (Line.Draft.fresh 0 0) := by
    rw [Line.Draft.read_flush 0 0 flush, Line.Draft.next_eq]
    simp [bodyMove, Move.draft, Line.Draft.fresh]
  obtain ⟨number, start, complete⟩ : ∃ number start,
      ((markers.bodyMove name).draft (Line.Draft.fresh 0 0)).read body =
        Line.Draft.fresh number start := by
    rcases terminated with rfl | ⟨text, rfl⟩
    · exact ⟨_, _, rfl⟩
    · exact Line.Draft.read_terminated _ text
  have last : Line.classifyFrom markers.recogniser (Line.Draft.fresh number start)
      (markers.regionEnd ++ ['\n']) = .ok [⟨number, start, markers.regionEnd, some 0, .closing⟩] := by
    rw [Line.classifyFrom_line flushEnd.noFeed flushEnd.noTab,
      Line.Draft.finish_closing flushEnd markers.recognise_closing]
    rfl
  refine ⟨⟨0, 0, markers.opening name, some 0, .directives (0 + markers.directiveColumn) tokens⟩,
    ⟨number, start, markers.regionEnd, some 0, .closing⟩, 0 + markers.directiveColumn - 0,
    .directed rfl (parsed 0 (Nat.zero_le _)), rfl, rfl, ?_⟩
  change Line.classifyFrom _ (Line.Draft.fresh 0 0) _ =
    bimap _ _ (Line.classifyFrom _ (Line.Draft.fresh 0 0) _)
  rw [define, Line.classifyFrom_line flush.noFeed flush.noTab, first]
  change Except.map _ (Line.classifyFrom _ _ _) = _
  rw [next, Line.classifyFrom_append (by rw [complete]; rfl), complete, last,
    (markers.bodyMove name).classifyFrom_moved]
  cases Line.classifyFrom markers.recogniser (Line.Draft.fresh 0 0) body <;> rfl

end Markers

end Stencil
