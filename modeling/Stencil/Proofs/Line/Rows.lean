/-
This file shows that the lines of a text are its rows, which lie between its line feeds.
-/
import Mathlib.Algebra.GroupWithZero.Nat
import Stencil.Proofs.Decided
import Stencil.Proofs.Line.Separate

namespace Stencil

namespace Text

/-- The rows of a text lie between its line feeds. -/
def rows (text : Text) : List Text := text.splitOn '\n'

/-- The rows of a text without a last one of fewer than two characters. -/
def keptRows (text : Text) : List Text :=
  if (text.rows.getLastD []).length < 2 then text.rows.dropLast else text.rows

/-- The bytes before a row, with those of the line feeds. -/
def rowOffset (rows : List Text) (index : Nat) : Nat :=
  ((rows.take index).map fun row => byteSize row + 1).sum

/-- The row without one carriage return at its end. -/
def chomp (row : Text) : Text := if row.getLast? = some '\r' then row.dropLast else row

@[simp] theorem rowOffset_cons (row : Text) (rows : List Text) (index : Nat) :
    rowOffset (row :: rows) (index + 1) = byteSize row + 1 + rowOffset rows index := rfl

/-- Lines are joined with line feeds between them. -/
theorem joined_eq_intercalate (lines : List Text) (last : Text) :
    Line.joined lines last = ['\n'].intercalate (lines ++ [last]) := by
  induction lines with
  | nil => simp [Line.joined]
  | cons line rest ih =>
      obtain ⟨next, more, same⟩ : ∃ next more, rest ++ [last] = next :: more :=
        List.exists_cons_of_ne_nil (by simp)
      rw [Line.joined_cons, ih, List.cons_append, same, List.intercalate_cons_cons, List.append_assoc]
      rfl

theorem splitOn_joined {lines : List Text} {last : Text} (noFeed : ∀ line ∈ lines, '\n' ∉ line)
    (noFeedLast : '\n' ∉ last) : (Line.joined lines last).splitOn '\n' = lines ++ [last] := by
  have free : ∀ line ∈ lines ++ [last], '\n' ∉ line :=
    List.forall_mem_append.2 ⟨noFeed, List.forall_mem_singleton.2 noFeedLast⟩
  rw [joined_eq_intercalate]
  exact List.splitOn_intercalate '\n' free (by simp)

theorem keptRows_joined {lines : List Text} {last : Text} (noFeed : ∀ line ∈ lines, '\n' ∉ line)
    (noFeedLast : '\n' ∉ last) :
    (Line.joined lines last).keptRows = lines ++ if last.length < 2 then [] else [last] := by
  rw [keptRows, rows, splitOn_joined noFeed noFeedLast, List.getLastD_concat, List.dropLast_concat]
  split
  · rw [List.append_nil]
  · rfl

theorem keptRows_noFeed {lines : List Text} {last : Text} (noFeed : ∀ line ∈ lines, '\n' ∉ line)
    (noFeedLast : '\n' ∉ last) : ∀ row ∈ (Line.joined lines last).keptRows, '\n' ∉ row := by
  rw [keptRows_joined noFeed noFeedLast]
  refine List.forall_mem_append.2 ⟨noFeed, ?_⟩
  split
  · exact nofun
  · exact List.forall_mem_singleton.2 noFeedLast

end Text

/-- The kind of a line that is not blank, by what a recogniser tells of its text. Directive text is scanned
where it stands in the line. -/
inductive Recogniser.Tells (recogniser : Recogniser) (number start : Nat) (text : Text) : Line.Kind → Prop where
  | regular (mark : recogniser.mark? text = none) : Tells recogniser number start text .regular
  | closing (mark : recogniser.mark? text = some .closing) : Tells recogniser number start text .closing
  | opening (mark : recogniser.mark? text = some (.opening none)) : Tells recogniser number start text .opening
  | directives {directives : DirectiveText} {tokens : List Token}
      (mark : recogniser.mark? text = some (.opening (some directives)))
      (scanned : Token.scan number directives.column (start + directives.column) directives.text =
        .ok tokens) :
      Tells recogniser number start text (.directives (start + directives.column) tokens)

namespace Line

/-- A line is what is read from a row with an index at a byte offset. -/
structure IsRow (recogniser : Recogniser) (index offset : Nat) (row : Text) (line : Line) : Prop where
  number : line.number = index
  start : line.start = offset
  text : line.text = row.chomp
  empty : line.kind = .empty ↔ Text.allBlank line.text
  unindented : line.indentation? = none ↔ Text.allBlank line.text
  indented : ¬Text.allBlank line.text → line.indentation? = some (line.text.takeWhile (· = ' ')).length
  kind : ¬Text.allBlank line.text → recogniser.Tells index offset line.text line.kind

/-- Lines make up a text from a byte offset on: behind each is its terminator, and what is left at the end of
the text has fewer than two characters. -/
inductive Tiles : Nat → List Line → Text → Prop where
  | none {start : Nat} {rest : Text} (short : rest.length < 2) : Tiles start [] rest
  | last {line : Line} {tail : Text} (ending : tail = [] ∨ tail = ['\r']) :
      Tiles line.start [line] (line.text ++ tail)
  | next {line : Line} {terminator : Text} {others : List Line} {rest : Text}
      (ending : terminator = ['\n'] ∨ terminator = ['\r', '\n'])
      (behind : Tiles (line.stop + Text.byteSize terminator) others rest) :
      Tiles line.start (line :: others) (line.text ++ (terminator ++ rest))

namespace Draft

/-- The text of a line is its row without a carriage return at the end. -/
theorem text_eq_chomp (draft : Draft) : draft.text = Text.chomp draft.reversed.reverse := by
  rw [Text.chomp, List.getLast?_reverse, text]
  split
  · next earlier same =>
      rw [same, List.head?_cons, if_pos rfl, List.reverse_cons, List.dropLast_concat]
  · next reversed other =>
      rw [if_neg]
      intro first
      obtain ⟨earlier, same⟩ := List.head?_eq_some_iff.1 first
      exact other earlier same

/-- A recogniser tells the kind of a finished line. -/
theorem kind_told {recogniser : Recogniser} {draft : Draft} {kind : Kind}
    (success : draft.kind recogniser = .ok kind) :
    recogniser.Tells draft.number draft.start draft.text kind := by
  unfold Draft.kind at success
  split at success
  · next mark => cases success; exact .regular mark
  · next mark => cases success; exact .closing mark
  · next mark => cases success; exact .opening mark
  · next directives mark =>
      obtain ⟨tokens, scanned, rfl⟩ := map_ok success
      exact .directives mark scanned

/-- Exactly the drafts that are not blank and whose directive text is refused are refused. -/
theorem finish_error_iff {recogniser : Recogniser} {draft : Draft} {error : Error} :
    draft.finish recogniser = .error error ↔ ¬Text.allBlank draft.text ∧ ∃ directives,
      recogniser.mark? draft.text = some (.opening (some directives)) ∧
        Token.scan draft.number directives.column (draft.start + directives.column) directives.text =
          .error error := by
  rw [finish]
  constructor
  · intro failure
    split at failure
    · cases failure
    · next content =>
        have failed := map_error failure
        rw [Draft.kind] at failed
        split at failed
        · cases failed
        · cases failed
        · cases failed
        · next directives mark => exact ⟨content, directives, mark, map_error failed⟩
  · rintro ⟨content, directives, mark, failed⟩
    rw [if_neg content, Draft.kind, mark]
    dsimp only
    rw [failed]
    rfl

/-- A formed draft becomes the line of its row. -/
theorem Formed.finish_isRow {recogniser : Recogniser} {draft : Draft} (formed : draft.Formed) {line : Line}
    (success : draft.finish recogniser = .ok line) :
    line.IsRow recogniser draft.number draft.start draft.reversed.reverse := by
  obtain ⟨blank, rfl⟩ | ⟨content, kind, found, rfl⟩ := finish_ok success
  · exact ⟨rfl, rfl, draft.text_eq_chomp, iff_of_true rfl blank, iff_of_true rfl blank,
      fun content => absurd blank content, fun content => absurd blank content⟩
  · have told := kind_told found
    have filled : ¬Text.allBlank draft.text = true := Bool.eq_false_iff.1 content
    obtain ⟨inside, _, head, same⟩ := formed.text_indented content
    have notEmpty : kind ≠ .empty := by
      rintro rfl
      cases told
    have leading : (draft.text.takeWhile (· = ' ')).length = draft.indentation := by
      rw [same, List.takeWhile_append_of_pos (by simp), List.length_append, List.length_replicate]
      cases inside with
      | nil => rfl
      | cons first rest => rw [List.takeWhile_cons_of_neg (by simpa using head)]; rfl
    exact ⟨rfl, rfl, draft.text_eq_chomp, iff_of_false notEmpty filled, iff_of_false nofun filled,
      fun _ => congrArg some leading.symm, fun _ => told⟩

end Draft

section

variable {recogniser : Recogniser} {number start : Nat}

/-- A row that is read becomes its line. -/
theorem ofText_isRow {row : Text} (noFeed : '\n' ∉ row) {line : Line}
    (success : ofText recogniser number start row = .ok line) :
    line.IsRow recogniser number start row := by
  unfold ofText at success
  split at success
  · cases success
  · have isRow := ((Draft.formed_fresh number start).read row).finish_isRow success
    obtain ⟨count, begin, reversed, _⟩ := @Draft.read_noFeed (Draft.fresh number start) row noFeed
    rw [count, begin, reversed, Draft.fresh, List.append_nil, List.reverse_reverse] at isRow
    exact isRow

theorem noTab_of_ofText {row : Text} {line : Line} (success : ofText recogniser number start row = .ok line) :
    '\t' ∉ row := by
  unfold ofText at success
  split at success
  · cases success
  · assumption

/-- The lines of some rows, each with a line feed behind it. -/
def ofRows (recogniser : Recogniser) : Nat → Nat → List Text → Except Error (List Line)
  | _, _, [] => .ok []
  | number, start, row :: rows =>
      ofText recogniser number start row >>= fun line =>
        (ofRows recogniser (number + 1) (start + Text.byteSize row + 1) rows).map (line :: ·)

/-- The lines of a text are the lines of its rows. Of a last row of fewer than two characters only a tab is
read. -/
theorem classifyFrom_joined {rows : List Text} {last : Text} (noFeed : ∀ row ∈ rows, '\n' ∉ row)
    (noFeedLast : '\n' ∉ last) :
    classifyFrom recogniser (Draft.fresh number start) (joined rows last) =
      ofRows recogniser number start
        (rows ++ if '\t' ∉ last ∧ last.length < 2 then [] else [last]) := by
  induction rows generalizing number start with
  | nil =>
      change classifyFrom recogniser _ last = _
      rw [classifyFrom_last noFeedLast, List.nil_append]
      split
      · rfl
      · rw [ofRows]
        cases ofText recogniser number start last <;> rfl
  | cons row rows ih =>
      obtain ⟨here, later⟩ := List.forall_mem_cons.1 noFeed
      rw [joined_cons, classifyFrom_ofText here, List.cons_append, ofRows, ih later]

/-- The line with an index is read from the row with this index. -/
theorem ofRows_ok {rows : List Text} {lines : List Line}
    (success : ofRows recogniser number start rows = .ok lines) :
    lines.length = rows.length ∧ ∀ index row, rows[index]? = some row → ∃ line, lines[index]? = some line ∧
      ofText recogniser (number + index) (start + Text.rowOffset rows index) row = .ok line := by
  induction rows generalizing number start lines with
  | nil =>
      cases success
      exact ⟨rfl, nofun⟩
  | cons row rows ih =>
      obtain ⟨line, first, success⟩ := bind_ok success
      obtain ⟨others, rest, rfl⟩ := map_ok success
      obtain ⟨count, each⟩ := ih rest
      refine ⟨congrArg (· + 1) count, fun index other found => ?_⟩
      cases index with
      | zero =>
          cases found
          exact ⟨line, rfl, first⟩
      | succ index =>
          obtain ⟨next, member, read⟩ := each index other found
          refine ⟨next, member, ?_⟩
          rw [Text.rowOffset_cons, ← Nat.add_assoc, ← Nat.add_assoc, ← Nat.add_assoc]
          rwa [Nat.add_right_comm] at read

/-- Each line is read from a row. -/
theorem ofRows_mem {rows : List Text} {lines : List Line}
    (success : ofRows recogniser number start rows = .ok lines) {line : Line} (member : line ∈ lines) :
    ∃ index row, rows[index]? = some row ∧
      ofText recogniser (number + index) (start + Text.rowOffset rows index) row = .ok line := by
  obtain ⟨count, each⟩ := ofRows_ok success
  obtain ⟨index, held⟩ := List.mem_iff_getElem?.1 member
  have inside : index < rows.length := by
    rw [← count]
    exact (List.getElem?_eq_some_iff.1 held).1
  obtain ⟨other, same, read⟩ := each index _ (List.getElem?_eq_getElem inside)
  cases held.symm.trans same
  exact ⟨index, _, List.getElem?_eq_getElem inside, read⟩

/-- A row that is read has the text of its line, which starts with it, and a carriage return at most. -/
theorem ofText_split {row : Text} (noFeed : '\n' ∉ row) {line : Line}
    (success : ofText recogniser number start row = .ok line) :
    line.start = start ∧ ∃ tail, row = line.text ++ tail ∧ (tail = [] ∨ tail = ['\r']) := by
  obtain ⟨_, begin, reversed, _⟩ := @Draft.read_noFeed (Draft.fresh number start) row noFeed
  rw [ofText_noTab (noTab_of_ofText success)] at success
  obtain ⟨same, text⟩ := Draft.finish_text success
  obtain ⟨tail, whole, ending⟩ := ((Draft.fresh number start).read row).text_append
  rw [reversed, Draft.fresh, List.append_nil, List.reverse_reverse] at whole
  exact ⟨same.trans begin, tail, by rw [text]; exact whole.symm, ending⟩

/-- The lines of some rows and a last one make up the text that is joined from them. -/
theorem ofRows_tiles {rows : List Text} {last : Text} {lines : List Line}
    (noFeed : ∀ row ∈ rows, '\n' ∉ row) (noFeedLast : '\n' ∉ last)
    (success : ofRows recogniser number start
      (rows ++ if '\t' ∉ last ∧ last.length < 2 then [] else [last]) = .ok lines) :
    Tiles start lines (joined rows last) := by
  induction rows generalizing number start lines with
  | nil =>
      change Tiles start lines last
      rw [List.nil_append] at success
      split at success
      · next dropped =>
          cases success
          exact .none dropped.2
      · obtain ⟨line, first, success⟩ := bind_ok success
        obtain ⟨others, none, rfl⟩ := map_ok success
        cases none
        obtain ⟨rfl, tail, rfl, ending⟩ := ofText_split noFeedLast first
        exact .last ending
  | cons row rows ih =>
      obtain ⟨here, later⟩ := List.forall_mem_cons.1 noFeed
      obtain ⟨line, first, success⟩ := bind_ok success
      obtain ⟨others, rest, rfl⟩ := map_ok success
      obtain ⟨rfl, tail, rfl, ending⟩ := ofText_split here first
      have behind := ih later rest
      have place : line.start + Text.byteSize (line.text ++ tail) + 1 =
          line.stop + Text.byteSize (tail ++ ['\n']) := by
        have feedSize : '\n'.utf8Size = 1 := rfl
        simp only [Text.byteSize_append, Text.byteSize_cons, Text.byteSize_nil, Line.stop, feedSize]
        omega
      have split : joined ((line.text ++ tail) :: rows) last =
          line.text ++ ((tail ++ ['\n']) ++ joined rows last) := by
        simp [joined_cons]
      rw [place] at behind
      rw [split]
      refine .next ?_ behind
      rcases ending with rfl | rfl
      · exact .inl rfl
      · exact .inr rfl

/-- The lines of a text are those of its rows, but for a last row that may be left out. -/
theorem classify_eq_ofRows (recogniser : Recogniser) (start : Nat) (text : Text) :
    ∃ read : List Text,
      (∀ (index : Nat) row, read[index]? = some row → text.rows[index]? = some row ∧ '\n' ∉ row) ∧
      recogniser.classify start text = ofRows recogniser 0 start read := by
  obtain ⟨rows, last, rfl, noFeed, noFeedLast⟩ := exists_joined text
  refine ⟨rows ++ if '\t' ∉ last ∧ last.length < 2 then [] else [last], fun index row found => ?_,
    classifyFrom_joined noFeed noFeedLast⟩
  have whole : (rows ++ [last])[index]? = some row := by
    split at found
    · rw [List.append_nil] at found
      rw [List.getElem?_append_left (List.getElem?_eq_some_iff.1 found).1]
      exact found
    · exact found
  have free : ∀ row ∈ rows ++ [last], '\n' ∉ row :=
    List.forall_mem_append.2 ⟨noFeed, List.forall_mem_singleton.2 noFeedLast⟩
  rw [Text.rows, Text.splitOn_joined noFeed noFeedLast]
  exact ⟨whole, free row (List.mem_of_getElem? whole)⟩

/-- A line of a text is formed and is read from the row with its number. -/
theorem exists_row {text : Text} {lines : List Line}
    (classified : recogniser.classify start text = .ok lines) {line : Line} (member : line ∈ lines) :
    line.Formed ∧ ∃ row begin, text.rows[line.number]? = some row ∧
      line.IsRow recogniser line.number begin row := by
  obtain ⟨read, rows, same⟩ := classify_eq_ofRows recogniser start text
  rw [same] at classified
  obtain ⟨index, row, held, success⟩ := ofRows_mem classified member
  obtain ⟨found, noFeed⟩ := rows index row held
  rw [Nat.zero_add] at success
  have isRow := ofText_isRow noFeed success
  rw [ofText_noTab (noTab_of_ofText success)] at success
  rw [isRow.number]
  exact ⟨((Draft.formed_fresh _ _).read row).finish success, row, _, found, isRow⟩

end

end Line

/-- The lines of a range are its rows: the range is cut at its line feeds, a last row of fewer than two
characters is left out, and each other row without a carriage return at its end is a line that starts where
the row does. A line is blank or has its leading spaces as indentation and the kind that the recogniser tells.
So only terminators are left out between lines, and at most one character more at the end. -/
theorem lines_are_rows {recogniser : Recogniser} {source : Text} {start stop : Nat} {lines : List Line}
    (classified : recogniser.lines source start stop = .ok lines) :
    ∃ text, Text.slice? source start stop = some text ∧ lines.length = text.keptRows.length ∧
      (∀ index row, text.keptRows[index]? = some row → ∃ line : Line, lines[index]? = some line ∧
        line.IsRow recogniser index (start + Text.rowOffset text.keptRows index) row) ∧
      Line.Tiles start lines text := by
  unfold Recogniser.lines at classified
  split at classified
  · cases classified
  · next text cut =>
      refine ⟨text, cut, ?_⟩
      obtain ⟨rows, last, rfl, noFeed, noFeedLast⟩ := Line.exists_joined text
      have read := (Line.classifyFrom_joined noFeed noFeedLast).symm.trans classified
      have tiles := Line.ofRows_tiles noFeed noFeedLast read
      have noTab : '\t' ∉ last := by
        intro tab
        rw [if_neg fun dropped => dropped.1 tab] at read
        obtain ⟨line, _, success⟩ := (Line.ofRows_ok read).2 rows.length last (by simp)
        exact Line.noTab_of_ofText success tab
      simp only [noTab, not_false_eq_true, true_and] at read
      rw [← Text.keptRows_joined noFeed noFeedLast] at read
      obtain ⟨count, each⟩ := Line.ofRows_ok read
      refine ⟨count, fun index row found => ?_, tiles⟩
      have member := List.mem_of_getElem? found
      have free := Text.keptRows_noFeed noFeed noFeedLast row member
      obtain ⟨line, held, success⟩ := each index row found
      rw [Nat.zero_add] at success
      exact ⟨line, held, Line.ofText_isRow free success⟩

/-- A text with carriage returns at several places, blanks of several kinds and a last row of one character. -/
def variedRows : Text :=
  "é  \r#region\r\r\n \u00a0\u3000\r\n  #region TEMPLATE INSERT($x) \r\n\n\r #endregion\nz".toList

theorem lines_are_rows_varied :
    ∃ lines, Markers.standard.recogniser.lines variedRows 2 70 = .ok lines ∧
      lines.map (fun line => (line.start, line.stop, line.indentation?)) =
        [(2, 13, some 2), (15, 21, none), (23, 53, some 2), (55, 55, none), (56, 68, some 0)] ∧
      ∃ text, Text.slice? variedRows 2 70 = some text ∧ lines.length = text.keptRows.length ∧
        Line.Tiles 2 lines text := by
  have spans : (Markers.standard.recogniser.lines variedRows 2 70).toOption.map
      (fun lines => lines.map fun line => (line.start, line.stop, line.indentation?)) =
        some [(2, 13, some 2), (15, 21, none), (23, 53, some 2), (55, 55, none), (56, 68, some 0)] := by
    decide +kernel
  obtain ⟨lines, classified, same⟩ := exists_ok spans
  obtain ⟨text, cut, count, _, tiles⟩ := lines_are_rows classified
  exact ⟨lines, classified, same, text, cut, count, tiles⟩

end Stencil
