/-
This file says where the patterns of region lines match.
-/
import Stencil.Proofs.Markers.Patterns
import Stencil.Proofs.Pattern.Outcomes
import Stencil.Proofs.Text.Word

namespace Stencil

open Pattern

namespace Pattern.Outcomes

/-- A blank or the end of the text. -/
def wordEnd : Outcomes := either (set Unicode.Property.whiteSpace) (look .stop)

/-- The directive text. -/
def lastText : Outcomes := capture 1 (andThen (star lineCharacters) (set Unicode.Property.whiteSpace.complement))

/-- The template word and the directive text. -/
def templateText (template : Text) : Outcomes :=
  andThen (plus Unicode.Property.whiteSpace)
    (andThen (text template) (andThen (plus Unicode.Property.whiteSpace) lastText))

/-- Directive text behind a gap, up to the end of a word. -/
def gapText : Outcomes := andThen (plus Unicode.Property.whiteSpace) (andThen lastText wordEnd)

variable {before rest : Text}

theorem contains_whiteSpace : Unicode.Property.whiteSpace.contains = Text.isBlank :=
  funext Unicode.contains_whiteSpace

/-- Where a word ends there is an outcome, which has no marks. -/
theorem wordEnd_ends (ends : Text.atWordEnd rest = true) :
    ∃ stop, (wordEnd.between before rest).head? = some ⟨stop, []⟩ := by
  cases rest with
  | nil => exact ⟨before.length, by simp [wordEnd, between, either, set, look, Look.holds]⟩
  | cons character rest =>
      refine ⟨before.length + 1, ?_⟩
      have blank : Unicode.Property.whiteSpace.contains character = true := by
        rw [Unicode.contains_whiteSpace]
        exact ends
      simp [wordEnd, between, either, set, blank]

theorem wordEnd_goesOn (goesOn : Text.atWordEnd rest = false) : wordEnd.between before rest = [] := by
  cases rest with
  | nil => cases goesOn
  | cons character rest =>
      have solid : Unicode.Property.whiteSpace.contains character = false := by
        rw [Unicode.contains_whiteSpace]
        exact goesOn
      simp [wordEnd, between, either, set, solid, look, Look.holds]

/-- The text up to the last character of a line that is not blank. -/
theorem lastCharacter_between (noFeed : '\n' ∉ rest) :
    ((andThen (star lineCharacters) (set Unicode.Property.whiteSpace.complement)).between before rest).head? =
      if Text.trimEnd rest = [] then none else some ⟨before.length + (Text.trimEnd rest).length, []⟩ := by
  induction rest generalizing before with
  | nil =>
      rw [andThen_star_refuses (by simp), set_between_nil]
      rfl
  | cons character rest ih =>
      have contained : lineCharacters.contains character = true := by
        rw [contains_lineCharacters, bne_iff_ne]
        rintro rfl
        exact noFeed List.mem_cons_self
      rw [andThen_star_reads contained, List.head?_append, ih fun member => noFeed (List.mem_cons_of_mem _ member),
        set_between_cons, Unicode.contains_nonspace, Text.trimEnd_cons, List.length_append, List.length_singleton]
      by_cases more : Text.trimEnd rest = []
      · rw [if_pos more, if_pos more, Option.none_or]
        cases Text.isBlank character <;> rfl
      · rw [if_neg more, if_neg more, if_neg (List.cons_ne_nil _ _), Option.some_or, List.length_cons, Nat.add_assoc,
          Nat.add_comm 1]

/-- The group of the directive text reaches to the last character that is not blank. -/
theorem lastText_between (noFeed : '\n' ∉ rest) (filled : Text.trimEnd rest ≠ []) :
    (lastText.between before rest).head? = some ⟨before.length + (Text.trimEnd rest).length,
      [⟨3, before.length + (Text.trimEnd rest).length⟩, ⟨2, before.length⟩]⟩ := by
  have inside := @lastCharacter_between before rest noFeed
  rw [if_neg filled] at inside
  have whole : (lastText.between before rest).head? = _ := List.head?_map
  rw [whole]
  exact congrArg _ inside

theorem lastText_blank (noFeed : '\n' ∉ rest) (blank : Text.trimEnd rest = []) : lastText.between before rest = [] := by
  have inside := @lastCharacter_between before rest noFeed
  rw [if_pos blank, List.head?_eq_none_iff] at inside
  exact (congrArg (List.map _) inside).trans rfl

/-- The directive text is found in front of the last blanks of a line. -/
theorem lastText_wordEnd (noFeed : '\n' ∉ rest) (filled : Text.trimEnd rest ≠ []) :
    ∃ stop, ((andThen lastText wordEnd).between before rest).head? = some ⟨stop,
      [⟨3, before.length + (Text.trimEnd rest).length⟩, ⟨2, before.length⟩]⟩ := by
  obtain ⟨blanks, same, blank⟩ := Text.trimEnd_append rest
  obtain ⟨stop, ends⟩ := @wordEnd_ends (before ++ Text.trimEnd rest) blanks (Text.atWordEnd_blanks blank)
  rw [between, List.append_assoc, ← same, List.length_append] at ends
  exact ⟨stop, head?_andThen (lastText_between noFeed filled) ends⟩

/-- Behind a first blank there may be more. -/
theorem plus_blank {second : Outcomes} {character : Char} (blank : Text.isBlank character = true) :
    (andThen (plus Unicode.Property.whiteSpace) second).between before (character :: rest) =
      (andThen (star Unicode.Property.whiteSpace) second).between (before ++ [character]) rest := by
  rw [andThen_plus]
  dsimp only
  rw [contains_whiteSpace, if_pos blank]

/-- In the middle of a word there is no gap. -/
theorem plus_goesOn {second : Outcomes} (goesOn : Text.atWordEnd rest = false) :
    (andThen (plus Unicode.Property.whiteSpace) second).between before rest = [] := by
  rw [andThen_plus]
  cases rest with
  | nil => rfl
  | cons character rest =>
      have solid : Text.isBlank character = false := goesOn
      dsimp only
      rw [contains_whiteSpace, solid, if_neg Bool.false_ne_true]

/-- Directive text is found behind a gap, from the first character that is not blank on. -/
theorem gapText_between (noFeed : '\n' ∉ rest) (ends : Text.atWordEnd rest = true) (filled : Text.trimStart rest ≠ []) :
    ∃ stop gap, rest = gap ++ Text.trimStart rest ∧ (gapText.between before rest).head? = some ⟨stop,
      [⟨3, (before ++ gap).length + (Text.trimEnd (Text.trimStart rest)).length⟩, ⟨2, (before ++ gap).length⟩]⟩ := by
  cases rest with
  | nil => exact absurd rfl filled
  | cons character rest =>
      have blank : Text.isBlank character = true := ends
      have same : Text.trimStart (character :: rest) = rest.dropWhile Text.isBlank := by
        rw [Text.trimStart, List.dropWhile_cons, if_pos blank]
      have noFeedBehind : '\n' ∉ rest.dropWhile Text.isBlank := fun member =>
        noFeed (List.mem_cons_of_mem _ ((List.dropWhile_suffix _).subset member))
      have filledBehind := Text.trimEnd_trimStart_ne_nil filled
      rw [same] at filledBehind ⊢
      obtain ⟨stop, finds⟩ :=
        @lastText_wordEnd (before ++ [character] ++ rest.takeWhile Text.isBlank) _ noFeedBehind filledBehind
      have reached : before ++ [character] ++ rest.takeWhile Text.isBlank =
          before ++ character :: rest.takeWhile Text.isBlank := List.append_assoc _ _ _
      rw [reached] at finds
      refine ⟨stop, character :: rest.takeWhile Text.isBlank, ?_, ?_⟩
      · rw [List.cons_append, List.takeWhile_append_dropWhile]
      · rw [gapText, plus_blank blank]
        -- The gap prefers all blanks, and behind them the text is found, so that no shorter gap is tried.
        refine head?_andThen_star ?_
        rw [contains_whiteSpace, reached]
        exact finds

/-- With nothing but blanks behind a gap there is no directive text. -/
theorem gapText_blank (noFeed : '\n' ∉ rest) (blank : Text.trimStart rest = []) : gapText.between before rest = [] := by
  have allBlank := List.dropWhile_eq_nil_iff.1 blank
  cases rest with
  | nil => rw [gapText, andThen_plus]
  | cons character rest =>
      rw [gapText, plus_blank (allBlank character List.mem_cons_self)]
      -- However many blanks the gap has, nothing but blanks is left.
      refine andThen_star_of_none fun before after suffix => andThen_of_nil (lastText_blank ?_ ?_)
      · exact fun member => noFeed (List.mem_cons_of_mem _ (suffix.subset member))
      · exact Text.trimEnd_eq_nil fun other member => allBlank other (List.mem_cons_of_mem _ (suffix.subset member))

/-- No word is read at a blank. -/
theorem text_blank {word : Text} (isWord : Text.isWord word = true) (second : Outcomes) (before : Text)
    (character : Char) (rest : Text) (blank : Unicode.Property.whiteSpace.contains character = true) :
    (andThen (text word) second).between before (character :: rest) = [] := by
  rw [contains_whiteSpace] at blank
  rw [andThen_text, Text.dropWord?_blank isWord blank]

/-- Behind a gap the template word is looked for, and what follows it. -/
theorem templateText_between {template : Text} (isWord : Text.isWord template = true)
    (ends : Text.atWordEnd rest = true) : (andThen (templateText template) wordEnd).between before rest =
      match Text.dropWord? template (Text.trimStart rest) with
      | some after => gapText.between (before ++ rest.takeWhile Text.isBlank ++ template) after
      | none => [] := by
  simp only [templateText, andThen_assoc]
  cases rest with
  | nil => rw [andThen_plus, Text.trimStart, List.dropWhile_nil, Text.dropWord?_nil isWord]
  | cons character rest =>
      have blank : Text.isBlank character = true := ends
      -- A shorter gap would leave a blank, with which no word begins.
      rw [plus_blank blank, andThen_star_of_failing (text_blank isWord _), andThen_text, contains_whiteSpace,
        Text.trimStart, List.dropWhile_cons, if_pos blank, List.takeWhile_cons, if_pos blank]
      simp only [List.append_assoc, List.cons_append, List.nil_append]
      rfl

/-- Lines that open a region. -/
def openingLine (markers : Markers) : Outcomes :=
  andThen (look .start) (andThen (star Unicode.Property.whiteSpace) (andThen (text markers.regionStart)
    (andThen (optional (templateText markers.template)) wordEnd)))

/-- Lines that close a region. -/
def closingLine (markers : Markers) : Outcomes :=
  andThen (look .start) (andThen (star Unicode.Property.whiteSpace) (andThen (text markers.regionEnd) wordEnd))

/-- A word at the start of a line, behind blanks, and what follows it. -/
theorem lineStart_text {word line : Text} (isWord : Text.isWord word = true) {second : Outcomes} :
    (andThen (look .start) (andThen (star Unicode.Property.whiteSpace) (andThen (text word) second))).between [] line =
      match Text.dropWord? word (Text.trimStart line) with
      | some after => second.between (line.takeWhile Text.isBlank ++ word) after
      | none => [] := by
  rw [andThen_look_start, andThen_star_of_failing (text_blank isWord second), andThen_text, contains_whiteSpace,
    List.nil_append]
  rfl

end Pattern.Outcomes

/-- Directive text between two positions of a line. -/
def DirectiveText.between (line : Text) (start stop : Nat) : DirectiveText :=
  ⟨Text.byteSize (line.take start), (line.take stop).drop start⟩

/-- Directive text stands in front of the last blanks of a line. -/
theorem DirectiveText.between_append (before body : Text) :
    between (before ++ body) before.length (before.length + (Text.trimEnd body).length) =
      ⟨Text.byteSize (before ++ body) - Text.byteSize body, Text.trimEnd body⟩ := by
  obtain ⟨blanks, same, _⟩ := Text.trimEnd_append body
  have cut : (before ++ body).take (before.length + (Text.trimEnd body).length) = before ++ Text.trimEnd body := by
    have kept : body.take (Text.trimEnd body).length = Text.trimEnd body :=
      (List.prefix_iff_eq_take.1 ⟨blanks, same.symm⟩).symm
    rw [List.take_length_add_append, kept]
  rw [between, cut, List.take_left, List.drop_left, Text.byteSize_append, Nat.add_sub_cancel]

namespace Markers

open Pattern.Outcomes

variable (markers : Markers)

theorem blanks_writes : Writer.Writes blanks.write (star Unicode.Property.whiteSpace) :=
  Expr.any_writes (Charset.isEmpty_of_contains Unicode.whiteSpace_ordered (Unicode.contains_whiteSpace ' '))

theorem wordEnd_writes : Writer.Writes wordEnd.write Outcomes.wordEnd :=
  Expr.either_writes (Expr.set_writes _) (Expr.look_writes _)

theorem lastText_writes : Writer.Writes lastText.write Outcomes.lastText := by
  have inhabited : lineCharacters.isEmpty = false :=
    Charset.isEmpty_of_contains (Charset.ofRanges_ordered _) (contains_lineCharacters ' ')
  exact Expr.capture_writes (Expr.concatenation_writes
    (Expr.cons_writes (Expr.any_writes inhabited) (Expr.last_writes (Expr.set_writes _))))

theorem templateExpr_writes : Writer.Writes markers.templateExpr.write (templateText markers.template) :=
  Expr.concatenation_writes (Expr.cons_writes (Expr.some_writes _) (Expr.cons_writes (Expr.literal_writes _)
    (Expr.cons_writes (Expr.some_writes _) (Expr.last_writes lastText_writes))))

theorem startExpr_writes : Writer.Writes markers.startExpr.write (openingLine markers) :=
  Expr.concatenation_writes (Expr.cons_writes (Expr.look_writes _) (Expr.cons_writes blanks_writes
    (Expr.cons_writes (Expr.literal_writes _) (Expr.cons_writes (Expr.optional_writes markers.templateExpr_writes)
      (Expr.last_writes wordEnd_writes)))))

theorem endExpr_writes : Writer.Writes markers.endExpr.write (closingLine markers) :=
  Expr.concatenation_writes (Expr.cons_writes (Expr.look_writes _) (Expr.cons_writes blanks_writes
    (Expr.cons_writes (Expr.literal_writes _) (Expr.last_writes wordEnd_writes))))

/-- Directive text is all that is behind the template word and blanks, but not the last blanks. -/
theorem directives?_eq_some_iff {line after : Text} {directives : DirectiveText} :
    markers.directives? line after = some directives ↔
      ∃ text, Text.dropWord? markers.template (Text.trimStart after) = some text ∧ Text.atWordEnd text = true ∧
        Text.trimStart text ≠ [] ∧ directives =
          ⟨Text.byteSize line - Text.byteSize (Text.trimStart text), Text.trimEnd (Text.trimStart text)⟩ := by
  rw [directives?]
  rcases Text.dropWord? markers.template (Text.trimStart after) with _ | text
  · exact iff_of_false nofun fun ⟨_, absent, _⟩ => nomatch absent
  · dsimp only
    rw [Option.ite_none_right_eq_some, Bool.and_eq_true, Bool.not_eq_true', List.isEmpty_eq_false_iff, Option.some_inj]
    constructor
    · rintro ⟨⟨ends, filled⟩, rfl⟩
      exact ⟨text, rfl, ends, filled, rfl⟩
    · rintro ⟨_, ⟨⟩, ends, filled, rfl⟩
      exact ⟨⟨ends, filled⟩, rfl⟩

/-- Where the start word does not end, or is none, the line opens no region. -/
theorem openingLine_none {line : Text}
    (absent : (Text.dropWord? markers.regionStart (Text.trimStart line)).filter Text.atWordEnd = none) :
    (openingLine markers).between [] line = [] := by
  rw [openingLine, lineStart_text markers.startIsWord]
  rcases found : Text.dropWord? markers.regionStart (Text.trimStart line) with _ | after
  · rfl
  · have goesOn : Text.atWordEnd after = false := by
      rw [found, Option.filter_some] at absent
      simpa using absent
    dsimp only
    rw [andThen_optional, templateText, andThen_assoc, plus_goesOn goesOn, wordEnd_goesOn goesOn, List.append_nil]

variable {line after : Text}

/-- Behind the start word the template word and directive text are preferred. -/
theorem openingLine_some
    (found : (Text.dropWord? markers.regionStart (Text.trimStart line)).filter Text.atWordEnd = some after) :
    ∃ before, line = before ++ after ∧ (openingLine markers).between [] line =
      (andThen (templateText markers.template) Outcomes.wordEnd).between before after ++
        Outcomes.wordEnd.between before after := by
  obtain ⟨dropped, ends⟩ := Option.filter_eq_some_iff.1 found
  refine ⟨_, Text.append_of_dropWord? dropped, ?_⟩
  rw [openingLine, lineStart_text markers.startIsWord, dropped]
  exact andThen_optional

/-- Without directive text the end of the start word is found. -/
theorem openingLine_plain (oneLine : '\n' ∉ line)
    (found : (Text.dropWord? markers.regionStart (Text.trimStart line)).filter Text.atWordEnd = some after)
    (absent : markers.directives? line after = none) :
    ∃ stop, ((openingLine markers).between [] line).head? = some ⟨stop, []⟩ := by
  have ends := (Option.filter_eq_some_iff.1 found).2
  obtain ⟨before, whole, same⟩ := markers.openingLine_some found
  have none : (andThen (templateText markers.template) Outcomes.wordEnd).between before after = [] := by
    rw [templateText_between markers.templateIsWord ends]
    rcases template : Text.dropWord? markers.template (Text.trimStart after) with _ | text
    · rfl
    · have noFeed : '\n' ∉ text := fun member => oneLine <| by
        rw [whole, Text.append_of_dropWord? template]
        exact List.mem_append_right _ (List.mem_append_right _ member)
      by_cases textEnds : Text.atWordEnd text = true
      · refine gapText_blank noFeed (Decidable.of_not_not fun filled => ?_)
        rw [markers.directives?_eq_some_iff.2 ⟨text, template, textEnds, filled, rfl⟩] at absent
        cases absent
      · exact plus_goesOn (Bool.eq_false_iff.2 textEnds)
  rw [same, none, List.nil_append]
  exact wordEnd_ends ends

/-- Directive text is found where it stands. -/
theorem openingLine_directives (oneLine : '\n' ∉ line)
    (found : (Text.dropWord? markers.regionStart (Text.trimStart line)).filter Text.atWordEnd = some after)
    {directives : DirectiveText} (carries : markers.directives? line after = some directives) :
    ∃ stop first last, ((openingLine markers).between [] line).head? = some ⟨stop, [⟨3, last⟩, ⟨2, first⟩]⟩ ∧
      DirectiveText.between line first last = directives := by
  obtain ⟨before, whole, same⟩ := markers.openingLine_some found
  obtain ⟨text, template, textEnds, filled, rfl⟩ := markers.directives?_eq_some_iff.1 carries
  have rest := Text.append_of_dropWord? template
  have noFeed : '\n' ∉ text := fun member => oneLine <| by
    rw [whole, rest]
    exact List.mem_append_right _ (List.mem_append_right _ member)
  obtain ⟨stop, gap, split, finds⟩ :=
    @gapText_between (before ++ after.takeWhile Text.isBlank ++ markers.template) text noFeed textEnds filled
  have cut : line = (before ++ after.takeWhile Text.isBlank ++ markers.template ++ gap) ++ Text.trimStart text := by
    rw [List.append_assoc _ gap, ← split]
    conv_lhs => rw [whole, rest]
    simp only [List.append_assoc]
  have directives := DirectiveText.between_append
    (before ++ after.takeWhile Text.isBlank ++ markers.template ++ gap) (Text.trimStart text)
  rw [← cut] at directives
  refine ⟨stop, _, _, ?_, directives⟩
  rw [same, templateText_between markers.templateIsWord (Option.filter_eq_some_iff.1 found).2, template,
    List.head?_append, finds]
  rfl

end Markers

end Stencil
