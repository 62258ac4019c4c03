/-
This file shows that the patterns of region lines recognise the marker words literally.
-/
import Stencil.Proofs.Markers.Matches
import Stencil.Proofs.Pattern.Search

namespace Stencil

namespace Pattern

/-- The pattern of an expression, whatever its size. -/
def ofExpr (expr : Expr) : Pattern := ⟨.ofExpr expr, expr.lastGroup⟩

/-- A pattern is compiled from the expression that its text writes. -/
theorem eq_ofExpr_of_compile? {text : Text} {pattern : Pattern} {expr : Expr} (read : Expr.read? text = some expr)
    (compiled : compile? text = some pattern) : pattern = ofExpr expr := by
  rw [compile?, read] at compiled
  change (if expr.fits then some (ofExpr expr) else none) = some pattern at compiled
  split at compiled
  · exact (Option.some.inj compiled).symm
  · cases compiled

/-- Where a pattern matches at no later position the search for it ends at the first. -/
theorem find?_anchored {pattern : Pattern} {text : Array Char}
    (later : ∀ position, position < text.size → pattern.matchAt? text (position + 1) = none) :
    pattern.find? text 0 = pattern.matchAt? text 0 := by
  cases searched : pattern.find? text 0 with
  | none => rw [matchAt?_eq_none searched (Nat.le_refl 0) (Nat.zero_le _)]
  | some found =>
      obtain ⟨matched, _⟩ := find?_least searched
      have bounds := find?_bounds searched
      cases starts : found.start with
      | zero => rw [← starts, matched]
      | succ position =>
          rw [starts, later position (by omega)] at matched
          cases matched

end Pattern

/-- A line is recognised by two patterns, of which the second is tried where the first does not match. The first
group of the first pattern is directive text. -/
def RegionMark.byPatterns? (start stop : Pattern) (line : Text) : Option RegionMark :=
  match start.find? line.toArray 0 with
  | some found => some (.opening (found.groups.head?.join.map fun group => .between line group.1 group.2))
  | none => (stop.find? line.toArray 0).map fun _ => .closing

namespace Markers

open Pattern Pattern.Outcomes

variable (markers : Markers)

theorem start_find? (line : Text) : (ofExpr markers.startExpr).find? line.toArray 0 =
    ((openingLine markers).between [] line).head?.map fun outcome =>
      ⟨0, outcome.stop, [groupSpan? outcome.marks 1]⟩ := by
  have groups : markers.startExpr.lastGroup = 1 := rfl
  have matched := matchAt?_of_writes markers.startExpr_writes markers.startExpr.lastGroup line.toArray
  rw [find?_anchored fun position inside => ?_]
  · refine (matched 0).trans ?_
    rw [groups]
    rfl
  · refine (matched (position + 1)).trans ?_
    rw [openingLine, andThen_look_inside inside]
    rfl

theorem end_find? (line : Text) : ((ofExpr markers.endExpr).find? line.toArray 0).isSome =
    ((closingLine markers).between [] line).head?.isSome := by
  have matched := matchAt?_of_writes markers.endExpr_writes markers.endExpr.lastGroup line.toArray
  rw [find?_anchored fun position inside => ?_]
  · rw [show (ofExpr markers.endExpr).matchAt? line.toArray 0 = _ from matched 0, Option.isSome_map]
    rfl
  · refine (matched (position + 1)).trans ?_
    rw [closingLine, andThen_look_inside inside]
    rfl

/-- The end word is found where it is recognised. -/
theorem closingLine_isSome (line : Text) : ((closingLine markers).between [] line).head?.isSome =
    ((Text.dropWord? markers.regionEnd (Text.trimStart line)).filter Text.atWordEnd).isSome := by
  rw [closingLine, lineStart_text markers.endIsWord]
  rcases Text.dropWord? markers.regionEnd (Text.trimStart line) with _ | after
  · rfl
  · dsimp only
    rw [Option.filter_some]
    cases ends : Text.atWordEnd after with
    | false =>
        rw [wordEnd_goesOn ends]
        rfl
    | true =>
        obtain ⟨stop, found⟩ := @wordEnd_ends (line.takeWhile Text.isBlank ++ markers.regionEnd) after ends
        rw [found]
        rfl

/-- The patterns recognise the lines that the words recognise. -/
theorem byPatterns?_eq {line : Text} (oneLine : '\n' ∉ line) :
    RegionMark.byPatterns? (ofExpr markers.startExpr) (ofExpr markers.endExpr) line = markers.recognise line := by
  rw [RegionMark.byPatterns?, start_find?, recognise]
  rcases start : (Text.dropWord? markers.regionStart (Text.trimStart line)).filter Text.atWordEnd with _ | after
  -- Only where the start word is not found the end pattern is asked.
  · rw [markers.openingLine_none start]
    have closes := markers.end_find? line
    rw [closingLine_isSome] at closes
    generalize (ofExpr markers.endExpr).find? line.toArray 0 = found? at closes ⊢
    rcases found? with _ | found
    · rw [Option.isSome_none, eq_comm, Option.isSome_eq_false_iff, Option.isNone_iff_eq_none] at closes
      rw [closes]
      rfl
    · obtain ⟨behind, ends⟩ := Option.isSome_iff_exists.1 closes.symm
      rw [ends]
      rfl
  · rcases carried : markers.directives? line after with _ | directives
    · obtain ⟨stop, found⟩ := markers.openingLine_plain oneLine start carried
      rw [found]
      dsimp only [Option.map_some]
      rw [carried]
      rfl
    · obtain ⟨stop, first, last, found, same⟩ := markers.openingLine_directives oneLine start carried
      rw [found]
      dsimp only [Option.map_some]
      rw [carried, ← same]
      rfl

/-- A line opens a region if it begins with the start word behind its first blanks. -/
theorem opening_iff {line : Text} : (∃ directives?, markers.recognise line = some (.opening directives?)) ↔
    Text.BeginsWith markers.regionStart (Text.trimStart line) := by
  rw [Text.beginsWith_iff]
  simp only [← Text.filter_dropWord?_iff, recognise]
  constructor
  · rintro ⟨directives?, opening⟩
    split at opening
    · next after found => exact ⟨after, found⟩
    · split at opening <;> cases opening
  · rintro ⟨after, found⟩
    exact ⟨_, by rw [found]⟩

/-- A line closes a region if it begins with the end word behind its first blanks. -/
theorem closing_iff {line : Text} : markers.recognise line = some .closing ↔
    Text.BeginsWith markers.regionEnd (Text.trimStart line) := by
  constructor
  · intro closing
    rw [recognise] at closing
    split at closing
    · cases closing
    · split at closing
      · next after found => exact Text.beginsWith_iff.2 ⟨after, Text.filter_dropWord?_iff.1 found⟩
      · cases closing
  · intro begins
    have absent : (Text.dropWord? markers.regionStart (Text.trimStart line)).filter Text.atWordEnd = none := by
      refine Option.eq_none_iff_forall_ne_some.2 fun after found => markers.startNeEnd ?_
      have beginsToo := Text.beginsWith_iff.2 ⟨after, Text.filter_dropWord?_iff.1 found⟩
      exact beginsToo.unique markers.startIsWord markers.endIsWord begins
    obtain ⟨after, found⟩ := Text.beginsWith_iff.1 begins
    rw [recognise, absent, Text.filter_dropWord?_iff.2 found]

/-- A line carries directive text behind the start word and the template word, each with blanks behind it. Blanks may
stand before the first word and behind the directive text, which neither begins nor ends with one. -/
structure Carries (line : Text) (directives : DirectiveText) (before gap others after : Text) : Prop where
  whole : line =
    before ++ (markers.regionStart ++ (gap ++ (markers.template ++ (others ++ (directives.text ++ after)))))
  blank : before.allBlank = true ∧ gap.allBlank = true ∧ others.allBlank = true ∧ after.allBlank = true
  apart : gap ≠ [] ∧ others ≠ []
  first : ∃ first ∈ directives.text.head?, Text.isBlank first = false
  last : ∃ last ∈ directives.text.getLast?, Text.isBlank last = false
  column : directives.column = Text.byteSize (before ++ (markers.regionStart ++ (gap ++ (markers.template ++ others))))

variable {markers} {line before gap others after : Text} {directives : DirectiveText}

theorem Carries.recognise (carries : markers.Carries line directives before gap others after) :
    markers.recognise line = some (.opening (some directives)) := by
  obtain ⟨column, text⟩ := directives
  obtain ⟨whole, ⟨beforeBlank, gapBlank, othersBlank, afterBlank⟩, ⟨gapFilled, othersFilled⟩, ⟨first, head, firstSolid⟩,
    ⟨last, final, lastSolid⟩, columns⟩ := carries
  dsimp only at whole head final columns
  obtain ⟨rest, same⟩ := List.head?_eq_some_iff.1 head
  have content : Text.trimStart line =
      markers.regionStart ++ (gap ++ (markers.template ++ (others ++ (text ++ after)))) := by
    rw [whole, Text.trimStart_append beforeBlank, Text.trimStart_eq (Text.solid_of_isWord markers.startIsWord _)]
  have ends {blanks rest : Text} (filled : blanks ≠ []) (blank : blanks.allBlank = true) :
      Text.atWordEnd (blanks ++ rest) = true := by
    obtain ⟨character, blanks, rfl⟩ := List.exists_cons_of_ne_nil filled
    exact List.all_eq_true.1 blank character List.mem_cons_self
  have start : (Text.dropWord? markers.regionStart (Text.trimStart line)).filter Text.atWordEnd =
      some (gap ++ (markers.template ++ (others ++ (text ++ after)))) :=
    Text.filter_dropWord?_iff.2 ⟨content, ends gapFilled gapBlank⟩
  have template : Text.dropWord? markers.template
      (Text.trimStart (gap ++ (markers.template ++ (others ++ (text ++ after))))) =
        some (others ++ (text ++ after)) := by
    rw [Text.trimStart_append gapBlank, Text.trimStart_eq (Text.solid_of_isWord markers.templateIsWord _),
      Text.dropWord?_append]
  have body : Text.trimStart (others ++ (text ++ after)) = text ++ after := by
    rw [Text.trimStart_append othersBlank, Text.trimStart_eq]
    simpa [same] using firstSolid
  have trimmed : Text.trimEnd (text ++ after) = text := by
    refine Text.trimEnd_append_eq (fun other member => ?_) afterBlank
    rw [Option.mem_unique member final, lastSolid]
  have filled : (text ++ after).isEmpty = false := by
    rw [same]
    rfl
  have column : Text.byteSize line - Text.byteSize (text ++ after) = column := by
    rw [whole, columns]
    simp only [Text.byteSize_append]
    omega
  rw [Markers.recognise, start]
  dsimp only
  rw [directives?, template]
  dsimp only
  rw [body, ends othersFilled othersBlank, filled, trimmed, column]
  rfl

theorem exists_carries (opening : markers.recognise line = some (.opening (some directives))) :
    ∃ before gap others after, markers.Carries line directives before gap others after := by
  rw [recognise] at opening
  split at opening
  · next behind start =>
      obtain ⟨dropped, ends⟩ := Option.filter_eq_some_iff.1 start
      obtain ⟨text, template, textEnds, filled, rfl⟩ :=
        markers.directives?_eq_some_iff.1 (RegionMark.opening.inj (Option.some.inj opening))
      obtain ⟨blanks, same, blank⟩ := Text.trimEnd_append (Text.trimStart text)
      have whole := Text.append_of_dropWord? dropped
      have rest := Text.append_of_dropWord? template
      have split : text.takeWhile Text.isBlank ++ Text.trimStart text = text := List.takeWhile_append_dropWhile
      -- The parts are cut from the line themselves, so that only its other side may be rewritten.
      have line_eq : line = line.takeWhile Text.isBlank ++ (markers.regionStart ++ (behind.takeWhile Text.isBlank ++
          (markers.template ++ (text.takeWhile Text.isBlank ++ Text.trimStart text)))) := by
        rw [split]
        conv_lhs => rw [whole, rest]
        simp only [List.append_assoc]
      have behindFilled : behind ≠ [] := by
        rw [rest]
        simp [Text.ne_nil_of_isWord markers.templateIsWord]
      have textFilled : text ≠ [] := by
        rintro rfl
        exact filled rfl
      have column : Text.byteSize line - Text.byteSize (Text.trimStart text) =
          Text.byteSize (line.takeWhile Text.isBlank ++ (markers.regionStart ++ (behind.takeWhile Text.isBlank ++
            (markers.template ++ text.takeWhile Text.isBlank)))) := by
        conv_lhs => rw [line_eq]
        simp only [Text.byteSize_append]
        omega
      obtain ⟨first, others, head⟩ := List.exists_cons_of_ne_nil filled
      have first? : (Text.trimStart text).head? = some first := by
        rw [head]
        rfl
      have solid := Text.trimStart_head? text first first?
      have trimmed := Text.trimEnd_trimStart_ne_nil filled
      exact ⟨line.takeWhile Text.isBlank, behind.takeWhile Text.isBlank, text.takeWhile Text.isBlank, blanks,
        { whole := by rwa [← same]
          blank := ⟨List.all_takeWhile, List.all_takeWhile, List.all_takeWhile, List.all_eq_true.2 blank⟩
          apart := ⟨Text.takeWhile_ne_nil behindFilled ends, Text.takeWhile_ne_nil textFilled textEnds⟩
          first := ⟨first, Text.trimEnd_head? first? solid, solid⟩
          last := ⟨_, List.getLast_mem_getLast? trimmed, Text.trimEnd_getLast? _ _ (List.getLast_mem_getLast? trimmed)⟩
          column := column }⟩
  · split at opening <;> cases opening

end Markers

/-- For all marker words, the patterns that are written with them can be read, and they recognise a line as the words
themselves do, also when they are compiled. A line opens a region if the start word, and closes one if the end word, is
first behind its blanks and a blank or the end follows, which is never so for both. It carries directive text if the
start word, the template word and other text follow one another between blanks, and that text has all but the last
blanks. -/
theorem region_lines_recognised_literally (markers : Markers) {line : Text} (oneLine : '\n' ∉ line) :
    (∃ start stop, Pattern.Expr.read? markers.startText = some start ∧
      Pattern.Expr.read? markers.endText = some stop ∧
      RegionMark.byPatterns? (.ofExpr start) (.ofExpr stop) line = markers.recognise line) ∧
    (∀ start stop, Pattern.compile? markers.startText = some start → Pattern.compile? markers.endText = some stop →
      RegionMark.byPatterns? start stop line = markers.recognise line) ∧
    ((∃ directives?, markers.recognise line = some (.opening directives?)) ↔
      Text.BeginsWith markers.regionStart (Text.trimStart line)) ∧
    (markers.recognise line = some .closing ↔ Text.BeginsWith markers.regionEnd (Text.trimStart line)) ∧
    ¬(Text.BeginsWith markers.regionStart (Text.trimStart line) ∧
      Text.BeginsWith markers.regionEnd (Text.trimStart line)) ∧
    (markers.recognise line = none ↔ ¬Text.BeginsWith markers.regionStart (Text.trimStart line) ∧
      ¬Text.BeginsWith markers.regionEnd (Text.trimStart line)) ∧
    ∀ directives, markers.recognise line = some (.opening (some directives)) ↔
      ∃ before gap others after, markers.Carries line directives before gap others after := by
  have recognised := markers.byPatterns?_eq oneLine
  refine ⟨⟨_, _, markers.startExpr_read, markers.endExpr_read, recognised⟩, fun start stop first second => ?_,
    markers.opening_iff, markers.closing_iff, ?_, ?_, fun directives => ?_⟩
  · rw [Pattern.eq_ofExpr_of_compile? markers.startExpr_read first,
      Pattern.eq_ofExpr_of_compile? markers.endExpr_read second, recognised]
  · rintro ⟨begins, beginsToo⟩
    exact markers.startNeEnd (begins.unique markers.startIsWord markers.endIsWord beginsToo)
  · rw [← markers.opening_iff, ← markers.closing_iff]
    rcases markers.recognise line with _ | ⟨directives? | _⟩ <;> simp
  · constructor
    · exact Markers.exists_carries
    · rintro ⟨before, gap, others, after, carries⟩
      exact carries.recognise

/-- Words of characters that have a meaning in patterns, one of which is the beginning of another. -/
def Markers.meaningful : Markers where
  regionStart := ['(', '*']
  regionEnd := ['(', '*', ')']
  template := ['$', '|']

theorem region_lines_recognised_literally_meaningful :
    '\n' ∉ "  (*\t$|  a b ".toList ∧ '\n' ∉ "(*) a".toList ∧
      Markers.meaningful.recognise "  (*\t$|  a b ".toList = some (.opening (some ⟨9, "a b".toList⟩)) ∧
      Markers.meaningful.recognise "(*) a".toList = some .closing := by
  have oneLine : '\n' ∉ "  (*\t$|  a b ".toList := by decide
  have oneLineToo : '\n' ∉ "(*) a".toList := by decide
  have carries : Markers.meaningful.Carries "  (*\t$|  a b ".toList ⟨9, "a b".toList⟩
      [' ', ' '] ['\t'] [' ', ' '] [' '] :=
    { whole := by decide
      blank := by decide
      apart := by decide
      first := ⟨'a', rfl, by decide⟩
      last := ⟨'b', rfl, by decide⟩
      column := by decide }
  obtain ⟨_, _, _, _, _, _, directives⟩ := region_lines_recognised_literally Markers.meaningful oneLine
  obtain ⟨_, _, _, closing, _⟩ := region_lines_recognised_literally Markers.meaningful oneLineToo
  exact ⟨oneLine, oneLineToo, (directives _).2 ⟨_, _, _, _, carries⟩,
    closing.2 (.inr ⟨' ', ['a'], by decide, by decide⟩)⟩

end Stencil
