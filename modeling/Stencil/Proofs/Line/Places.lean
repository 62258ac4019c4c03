/-
This file shows that the places in a line are places in its row: the one of a tab, of a character where no lexeme
starts, of each token, and the one behind the indentation.
-/
import Mathlib.Data.List.DropRight
import Stencil.Proofs.Directive.Blame
import Stencil.Proofs.Line.Faults

namespace Stencil

namespace Text

/-- A place of a text cuts one of its rows in two. A carriage return at the end of the row does not count. -/
structure CutAt (text : Text) (place : Place) (before rest : Text) : Prop where
  row : ∃ row, text.rows[place.line]? = some row ∧ row.chomp = before ++ rest
  column : byteSize before = place.column

/-- A carriage return is left out behind a tab at most. -/
theorem chomp_tab (before after : Text) :
    ∃ rest, (before ++ '\t' :: after).chomp = before ++ '\t' :: rest := by
  unfold chomp
  split
  · next ending =>
      cases after with
      | nil =>
          rw [List.getLast?_concat] at ending
          cases ending
      | cons next others =>
          refine ⟨(next :: others).dropLast, ?_⟩
          rw [List.dropLast_append_of_ne_nil (List.cons_ne_nil _ _)]
          rfl
  · exact ⟨after, rfl⟩

end Text

/-- Directive text stands at its column of a line. It does not end with a blank, and blanks are behind it. -/
structure DirectiveText.StandsIn (line : Text) (directives : DirectiveText) : Prop where
  split : ∃ before blanks, line = before ++ (directives.text ++ blanks) ∧
    Text.byteSize before = directives.column ∧ Text.allBlank blanks = true
  solid : ∃ last, directives.text.getLast? = some last ∧ Text.isBlank last = false

/-- A character that is refused stands at a place of a text. It is a tab, or no lexeme starts there when the
directive text of the row is read. -/
inductive Text.Refuses (markers : Markers) (text : Text) (place : Place) : LexicalFault → Prop where
  | tab {before rest : Text} (cut : text.CutAt place before ('\t' :: rest)) : Refuses markers text place .tab
  | unexpected {row before rest part left : Text} {directives : DirectiveText} {character : Char}
      (found : text.rows[place.line]? = some row)
      (mark : markers.recogniser.mark? row.chomp = some (.opening (some directives)))
      (reads : Lexeme.Reads directives.text part (character :: left))
      (absent : Lexeme.read? (character :: left) = none)
      (column : place.column = directives.column + Text.byteSize part)
      (cut : text.CutAt place before (character :: rest)) : Refuses markers text place (.unexpected character)

namespace Markers

variable {markers : Markers} {line : Text} {directives : DirectiveText}

theorem directives?_standsIn {before afterStart : Text} (behind : line = before ++ afterStart)
    (found : markers.directives? line afterStart = some directives) : directives.StandsIn line := by
  unfold directives? at found
  split at found
  · cases found
  · next afterTemplate template =>
      dsimp only at found
      split at found
      · next given =>
          cases found
          obtain ⟨blanks, first⟩ := trimStart_suffix afterStart
          obtain ⟨others, second⟩ := trimStart_suffix afterTemplate
          have whole : line =
              (before ++ (blanks ++ (markers.template ++ others))) ++ Text.trimStart afterTemplate := by
            rw [behind, first, dropWord?_append template]
            simp only [List.append_assoc, ← second]
          have sizes := congrArg Text.byteSize whole
          rw [Text.byteSize_append] at sizes
          have trimmed : Text.trimEnd (Text.trimStart afterTemplate) ≠ [] := by
            intro none
            have solid : (afterTemplate.dropWhile Text.isBlank).dropWhile Text.isBlank = [] :=
              List.dropWhile_eq_nil_iff.2 (List.rdropWhile_eq_nil_iff.1 none)
            rw [List.dropWhile_idempotent] at solid
            simp [Text.trimStart, solid] at given
          refine ⟨⟨_, (Text.trimStart afterTemplate).rtakeWhile Text.isBlank, ?_,
            (Nat.sub_eq_of_eq_add sizes).symm, ?_⟩, ⟨_, List.getLast?_eq_getLast_of_ne_nil trimmed, ?_⟩⟩
          · rw [whole]
            exact congrArg _ List.rdropWhile_append_rtakeWhile.symm
          · exact List.all_eq_true.2 fun _ => List.mem_rtakeWhile_imp
          · exact Bool.eq_false_iff.2 (List.rdropWhile_last_not _ _ trimmed)
      · cases found

/-- Marker words find directive text that stands in the line. -/
theorem standsIn_of_mark? (found : markers.recogniser.mark? line = some (.opening (some directives))) :
    directives.StandsIn line := by
  change markers.recognise line = _ at found
  unfold recognise at found
  dsimp only at found
  split at found
  · next afterStart start =>
      obtain ⟨before, leading⟩ := trimStart_suffix line
      have word := dropWord?_append (Option.filter_eq_some_iff.1 start).1
      have behind : line = (before ++ markers.regionStart) ++ afterStart := by
        rw [List.append_assoc, ← word]
        exact leading
      exact directives?_standsIn behind (RegionMark.opening.inj (Option.some.inj found))
  · split at found <;> cases found

end Markers

namespace Line

section

variable {markers : Markers} {index offset : Nat} {row text : Text} {line : Line}

/-- A line that is not blank begins with its indentation. -/
theorem IsRow.indentation_cut (isRow : line.IsRow markers.recogniser index offset row) (formed : line.Formed)
    (found : text.rows[index]? = some row) (notEmpty : line.kind ≠ .empty) :
    ∃ first rest, first ≠ ' ' ∧ text.CutAt ⟨line.number, line.indentation⟩
      (List.replicate line.indentation ' ') (first :: rest) := by
  obtain ⟨content, nonempty, head, same⟩ := formed.indented notEmpty
  obtain ⟨first, rest, rfl⟩ := List.exists_cons_of_ne_nil nonempty
  refine ⟨first, rest, fun space => head (congrArg some space), ⟨row, ?_, ?_⟩, Text.byteSize_spaces _⟩
  · rwa [isRow.number]
  · rw [← isRow.text, same]

/-- The tokens of a line are those of directive text that stands in it. -/
theorem IsRow.scanned (isRow : line.IsRow markers.recogniser index offset row) {begin : Nat}
    {tokens : List Token} (kind : line.kind = .directives begin tokens) :
    ∃ directives, markers.recogniser.mark? line.text = some (.opening (some directives)) ∧
      Token.scan line.number directives.column (line.start + directives.column) directives.text =
        .ok tokens := by
  have content : ¬Text.allBlank line.text := by
    rw [← isRow.empty, kind]
    exact nofun
  have told := isRow.kind content
  rw [kind, ← isRow.number, ← isRow.start] at told
  cases told with
  | directives mark scanned => exact ⟨_, mark, scanned⟩

/-- An end of line stands behind the directive text of a line. Only blanks follow it. -/
structure EndsAt (markers : Markers) (line : Line) (column : Nat) (rest : Text) : Prop where
  text : ∃ directives, markers.recogniser.mark? line.text = some (.opening (some directives)) ∧
    directives.StandsIn line.text ∧ column = directives.column + Text.byteSize directives.text
  blank : Text.allBlank rest = true

/-- A token of a line stands at its place, an end of line behind the directive text. -/
theorem IsRow.token_cut (isRow : line.IsRow markers.recogniser index offset row)
    (found : text.rows[index]? = some row) {begin : Nat} {tokens : List Token}
    (kind : line.kind = .directives begin tokens) {token : Token} (member : token ∈ tokens) :
    token.InLine line.number line.start ∧
      ∃ before rest, text.CutAt token.place before (token.text ++ rest) ∧
        (token.kind = .endOfLine → token.text = [] ∧ line.EndsAt markers token.column rest) := by
  obtain ⟨directives, mark, scanned⟩ := isRow.scanned kind
  have standsIn := Markers.standsIn_of_mark? mark
  obtain ⟨before, blanks, whole, column, blank⟩ := standsIn.split
  have stands := Token.scan_standsIn scanned token member
  obtain ⟨part, after, inside, columns, start, ends⟩ := stands.split
  refine ⟨⟨stands.line, by rw [columns, start, Nat.add_assoc]⟩,
    before ++ part, after ++ blanks, ⟨⟨row, ?_, ?_⟩, ?_⟩, fun endOfLine => ?_⟩
  · rw [Token.place, stands.line, isRow.number]
    exact found
  · rw [← isRow.text, whole, inside]
    simp only [List.append_assoc]
  · rw [Token.place, columns, Text.byteSize_append, column]
  · obtain ⟨none, rfl⟩ := ends endOfLine
    rw [none, List.append_nil, List.append_nil] at inside
    exact ⟨none, ⟨directives, mark, standsIn, by rw [columns, inside]⟩, blank⟩

/-- A fault of a row is a character that is refused at its place. -/
theorem refuses_of_rowFault {number column : Nat} {fault : LexicalFault} (found : text.rows[number]? = some row)
    (faulty : markers.recogniser.RowFault number row column fault) :
    text.Refuses markers ⟨number, column⟩ fault := by
  cases faulty with
  | @tab before after split noTab =>
      obtain ⟨rest, same⟩ := Text.chomp_tab before after
      exact .tab ⟨⟨row, found, by rw [split, same]⟩, rfl⟩
  | @directives column character noTab refuses =>
      obtain ⟨_, directives, mark, refused⟩ := refuses
      obtain ⟨part, character, left, reads, absent, same⟩ := Token.scan_refused refused
      cases same
      obtain ⟨before, blanks, whole, column, _⟩ := (Markers.standsIn_of_mark? mark).split
      have stands : row.chomp = (before ++ part) ++ character :: (left ++ blanks) := by
        rw [whole, ← reads.append]
        simp only [List.append_assoc, List.cons_append]
      refine .unexpected found mark reads absent rfl ⟨⟨row, found, stands⟩, ?_⟩
      rw [Text.byteSize_append, column]

/-- A text is refused for one of its characters. -/
theorem classify_refused {start : Nat} {error : Error}
    (failure : markers.recogniser.classify start text = .error error) :
    ∃ place fault, error = .lexical place fault ∧ text.Refuses markers place fault := by
  obtain ⟨place, fault, rfl, ⟨row, found, faulty, _⟩, _⟩ := classify_error_iff.1 failure
  exact ⟨place, fault, rfl, refuses_of_rowFault found faulty⟩

end

end Line

end Stencil
