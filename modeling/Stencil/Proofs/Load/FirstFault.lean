/-
This file shows exactly when the lines of a range are refused and where: at the earliest row that has a tab or
directive text that is not cut into tokens.
-/
import Stencil.Proofs.Line.Faults
import Stencil.Proofs.Load.Pieces

namespace Stencil

namespace Text

/-- A place of a text stands before a character. Its line counts the line feeds before it, and its column the bytes
behind the last of them. -/
def StandsBefore (text : Text) (place : Place) (character : Char) : Prop :=
  ∃ earlier here rest, text = earlier ++ (here ++ character :: rest) ∧
    (earlier = [] ∨ earlier.getLast? = some '\n') ∧ '\n' ∉ here ∧
    place = ⟨(earlier ++ here).count '\n', byteSize here⟩

/-- Behind some rows stands the row with their number. -/
theorem joined_split {rows : List Text} {last row : Text} (noFeed : ∀ row ∈ rows, '\n' ∉ row)
    (noFeedLast : '\n' ∉ last) {index : Nat} (found : (rows ++ [last])[index]? = some row) :
    '\n' ∉ row ∧ ∃ earlier later, Line.joined rows last = earlier ++ (row ++ later) ∧
      (earlier = [] ∨ earlier.getLast? = some '\n') ∧ earlier.count '\n' = index := by
  induction rows generalizing index with
  | nil =>
      obtain ⟨rfl, rfl⟩ : index = 0 ∧ last = row := by simpa [List.getElem?_singleton] using found
      exact ⟨noFeedLast, [], [], (List.append_nil _).symm, .inl rfl, rfl⟩
  | cons first rows ih =>
      obtain ⟨here, others⟩ := List.forall_mem_cons.1 noFeed
      rw [Line.joined_cons]
      cases index with
      | zero =>
          cases found
          exact ⟨here, [], '\n' :: Line.joined rows last, rfl, .inl rfl, rfl⟩
      | succ index =>
          obtain ⟨free, earlier, later, split, ends, feeds⟩ := ih others found
          refine ⟨free, first ++ '\n' :: earlier, later, ?_, .inr ?_, ?_⟩
          · rw [split, List.append_assoc, List.cons_append]
          · rcases ends with rfl | ends
            · exact List.getLast?_concat
            · rw [List.getLast?_append, List.getLast?_cons, ends]
              rfl
          · rw [List.count_append, List.count_cons_self, List.count_eq_zero.2 here, feeds, Nat.zero_add]

/-- A row of a text has line feeds around it, and its index is the number of those before it. -/
theorem exists_row_split {text row : Text} {index : Nat} (found : text.rows[index]? = some row) :
    '\n' ∉ row ∧ ∃ earlier later, text = earlier ++ (row ++ later) ∧
      (earlier = [] ∨ earlier.getLast? = some '\n') ∧ earlier.count '\n' = index := by
  obtain ⟨rows, last, rfl, noFeed, noFeedLast⟩ := Line.exists_joined text
  rw [Text.rows, splitOn_joined noFeed noFeedLast] at found
  exact joined_split noFeed noFeedLast found

/-- A character of a text that is no line feed is in one of its rows. -/
theorem exists_row_of_mem {text : Text} {character : Char} (notFeed : character ≠ '\n')
    (inside : character ∈ text) : ∃ (index : Nat) (row : Text), text.rows[index]? = some row ∧ character ∈ row := by
  obtain ⟨rows, last, rfl, noFeed, noFeedLast⟩ := Line.exists_joined text
  rw [Text.rows, splitOn_joined noFeed noFeedLast]
  suffices ∃ row ∈ rows ++ [last], character ∈ row by
    obtain ⟨row, among, inside⟩ := this
    obtain ⟨index, found⟩ := List.mem_iff_getElem?.1 among
    exact ⟨index, row, found, inside⟩
  rcases List.mem_append.1 inside with among | inLast
  · obtain ⟨row, member, within⟩ := List.mem_flatMap.1 among
    rcases List.mem_append.1 within with inRow | feed
    · exact ⟨row, List.mem_append_left _ member, inRow⟩
    · exact absurd (List.mem_singleton.1 feed) notFeed
  · exact ⟨last, List.mem_append_right _ (List.mem_singleton_self _), inLast⟩

/-- A kept row is a row. -/
theorem rows_of_keptRows {text row : Text} {index : Nat} (found : text.keptRows[index]? = some row) :
    text.rows[index]? = some row := by
  rw [keptRows] at found
  split at found
  · rw [List.getElem?_dropLast] at found
    split at found
    · exact found
    · cases found
  · exact found

/-- A row begins with the text of its line. -/
theorem chomp_prefix (row : Text) : row.chomp <+: row := by
  rw [chomp]
  split
  · exact row.dropLast_prefix
  · exact List.prefix_refl row

end Text

namespace Recogniser

variable {recogniser : Recogniser} {index column : Nat} {row : Text} {fault : LexicalFault} {error : Error}

/-- Directive text is a part of its row. -/
theorem directives_in_row {directives : DirectiveText}
    (mark : recogniser.mark? row.chomp = some (.opening (some directives))) :
    ∃ before after, row = before ++ (directives.text ++ after) ∧ Text.byteSize before = directives.column := by
  obtain ⟨before, after, split, width⟩ := recogniser.within row.chomp directives mark
  obtain ⟨behind, whole⟩ := row.chomp_prefix
  refine ⟨before, after ++ behind, ?_, width⟩
  rw [← whole, split]
  simp only [List.append_assoc]

/-- The column of a fault stands before the character that is refused. -/
theorem RowFault.exists_character (faulty : recogniser.RowFault index row column fault) :
    ∃ here character rest, row = here ++ character :: rest ∧ Text.byteSize here = column ∧
      (fault = .tab ∧ character = '\t' ∨ fault = .unexpected character) := by
  cases faulty with
  | tab split first => exact ⟨_, '\t', _, split, rfl, .inl ⟨rfl, rfl⟩⟩
  | @directives _ character noTab refuses =>
      obtain ⟨_, directives, mark, refused⟩ := refuses
      obtain ⟨part, _, left, reads, _, same⟩ := Token.scan_refused refused
      cases same
      obtain ⟨before, after, split, width⟩ := directives_in_row mark
      refine ⟨before ++ part, character, left ++ after, ?_, ?_, .inr rfl⟩
      · rw [split, ← reads.append]
        simp only [List.append_assoc, List.cons_append]
      · rw [Text.byteSize_append, width]

/-- A row with refused directive text has a fault, which is a tab if it has one. -/
theorem RefusesDirectives.exists_rowFault (refuses : recogniser.RefusesDirectives index row error) :
    ∃ column fault, recogniser.RowFault index row column fault := by
  by_cases tab : '\t' ∈ row
  · obtain ⟨before, after, split, first⟩ := List.eq_append_cons_of_mem tab
    exact ⟨_, _, .tab split first⟩
  · have given := refuses
    obtain ⟨_, _, _, refused⟩ := given
    obtain ⟨_, character, _, _, _, rfl⟩ := Token.scan_refused refused
    exact ⟨_, _, .directives tab refuses⟩

end Recogniser

namespace Text

variable {recogniser : Recogniser} {text row : Text} {place : Place} {fault : LexicalFault}

/-- A row with a tab has a fault. -/
theorem exists_faultAt_of_tab {index : Nat} (found : text.rows[index]? = some row) (tab : '\t' ∈ row) :
    ∃ place, place.line = index ∧ text.FaultAt recogniser place .tab := by
  obtain ⟨before, after, split, first⟩ := List.eq_append_cons_of_mem tab
  exact ⟨⟨index, byteSize before⟩, rfl, row, found, .tab split first, .inl rfl⟩

/-- A row before the first fault has no tab, nor has the row of the first fault if this is none. -/
theorem no_tab_before_fault {index : Nat} (found : text.rows[index]? = some row)
    (before : ∀ place fault, text.FirstFault recogniser place fault →
      index < place.line ∨ index = place.line ∧ fault ≠ .tab) : '\t' ∉ row := by
  intro tab
  obtain ⟨place, line, faulty⟩ := @exists_faultAt_of_tab recogniser _ _ _ found tab
  obtain ⟨first, fault, firstFault⟩ := faulty.exists_first
  have earliest := firstFault.2 _ _ faulty
  obtain ⟨other, held, itsFault, _⟩ := firstFault.1
  rcases before first fault firstFault with earlier | ⟨same, notTab⟩
  · omega
  · rw [← same, found] at held
    cases held
    exact notTab (itsFault.tab_iff.2 tab)

/-- A text has a fault exactly if it has a tab, or if directive text of a row that is kept is refused. -/
theorem exists_faultAt_iff :
    (∃ place fault, text.FaultAt recogniser place fault) ↔ '\t' ∈ text ∨
      ∃ index row error, text.keptRows[index]? = some row ∧ recogniser.RefusesDirectives index row error := by
  constructor
  · rintro ⟨⟨index, column⟩, fault, row, found, faulty, processed⟩
    cases faulty with
    | tab split _ =>
        obtain ⟨_, earlier, later, rfl, _⟩ := exists_row_split found
        exact .inl (by simp [split])
    | directives noTab refuses =>
        exact .inr ⟨index, row, _, processed.resolve_left nofun, refuses⟩
  · rintro (tab | ⟨index, row, error, kept, refuses⟩)
    · obtain ⟨_, _, found, inside⟩ := exists_row_of_mem (by decide) tab
      obtain ⟨place, _, faulty⟩ := exists_faultAt_of_tab found inside
      exact ⟨place, .tab, faulty⟩
    · obtain ⟨column, fault, faulty⟩ := refuses.exists_rowFault
      exact ⟨⟨index, column⟩, fault, row, rows_of_keptRows kept, faulty, .inr kept⟩

/-- A fault of a text stands before the character that is refused. -/
theorem FaultAt.standsBefore (faulty : text.FaultAt recogniser place fault) :
    ∃ character, text.StandsBefore place character ∧
      (fault = .tab ∧ character = '\t' ∨ fault = .unexpected character) := by
  obtain ⟨row, found, faulty, _⟩ := faulty
  obtain ⟨here, character, rest, split, width, refused⟩ := faulty.exists_character
  obtain ⟨free, earlier, later, whole, ends, feeds⟩ := exists_row_split found
  have noFeed : '\n' ∉ here := fun feed => free (split ▸ List.mem_append_left _ feed)
  refine ⟨character, ⟨earlier, here, rest ++ later, ?_, ends, noFeed, ?_⟩, refused⟩
  · rw [whole, split]
    simp only [List.append_assoc, List.cons_append]
  · rw [List.count_append, List.count_eq_zero.2 noFeed, feeds, width, Nat.add_zero]

end Text

/-- The pieces of a template that a range gives have no tab. -/
theorem Recogniser.Gives.pieces_no_tab {recogniser : Recogniser} {source : Text} {start stop : Nat}
    {template : Template} (gives : recogniser.Gives source start stop template) :
    ∀ piece ∈ template.pieces, '\t' ∉ piece.text := by
  intro piece member
  obtain ⟨lines, placed, base, classified, sublist, _, made⟩ := gives.made
  rw [← Array.mem_toList_iff, made.pieces] at member
  obtain ⟨other, among, inside⟩ := List.mem_flatMap.1 member
  have amongLines := sublist.mem (List.mem_map_of_mem (f := Placed.line) among)
  obtain ⟨formed, lies⟩ := Recogniser.lines_formed classified _ amongLines
  exact (Placed.pieces_proper formed lies (Recogniser.lines_within classified amongLines) inside).noTab

/-- The lines of a range are refused exactly at the first fault of its text, and they are refused if and only if
the text has a tab anywhere or a kept row has directive text that is not cut into tokens. The error stands before
the character that it names. So no directive text that is read before has a tab, and no template that a range
gives. -/
theorem lines_refused_at_first_fault {recogniser : Recogniser} {source text : Text} {start stop : Nat}
    (cut : Text.slice? source start stop = some text) :
    (∀ error, recogniser.lines source start stop = .error error ↔
      ∃ place fault, error = .lexical place fault ∧ text.FirstFault recogniser place fault) ∧
    ((∃ error, recogniser.lines source start stop = .error error) ↔ '\t' ∈ text ∨
      ∃ index row error, text.keptRows[index]? = some row ∧ recogniser.RefusesDirectives index row error) ∧
    (∀ place fault, text.FirstFault recogniser place fault → ∃ character, text.StandsBefore place character ∧
      (fault = .tab ∧ character = '\t' ∨ fault = .unexpected character)) ∧
    (∀ (index : Nat) row directives, text.rows[index]? = some row →
      recogniser.mark? row.chomp = some (.opening (some directives)) →
      (∀ place fault, text.FirstFault recogniser place fault →
        index < place.line ∨ index = place.line ∧ fault ≠ .tab) →
      '\t' ∉ row ∧ '\t' ∉ directives.text) ∧
    ∀ template, recogniser.Gives source start stop template →
      '\t' ∉ text ∧ ∀ piece ∈ template.pieces, '\t' ∉ piece.text := by
  have refused (error : Error) : recogniser.lines source start stop = .error error ↔
      ∃ place fault, error = .lexical place fault ∧ text.FirstFault recogniser place fault := by
    rw [Recogniser.lines, cut]
    exact Line.classify_error_iff
  have fails : (∃ error, recogniser.lines source start stop = .error error) ↔
      ∃ place fault, text.FaultAt recogniser place fault := by
    simp only [refused]
    constructor
    · rintro ⟨_, place, fault, _, faulty, _⟩
      exact ⟨place, fault, faulty⟩
    · rintro ⟨_, _, faulty⟩
      obtain ⟨place, fault, first⟩ := faulty.exists_first
      exact ⟨_, place, fault, rfl, first⟩
  rw [Text.exists_faultAt_iff] at fails
  refine ⟨refused, fails, fun place fault first => first.1.standsBefore,
    fun index row directives found mark before => ?_, fun template gives => ?_⟩
  · have noTab := Text.no_tab_before_fault found before
    obtain ⟨earlier, later, split, _⟩ := Recogniser.directives_in_row mark
    exact ⟨noTab, fun tab => noTab (by simp [split, tab])⟩
  · refine ⟨fun tab => ?_, gives.pieces_no_tab⟩
    obtain ⟨lines, _, _, classified, _⟩ := gives.made
    obtain ⟨error, failure⟩ := fails.2 (.inl tab)
    rw [classified] at failure
    cases failure

/-- The second row has refused directive text and two tabs, and the last one, which is left out, a third. -/
def tabbedDirectives : Text :=
  "é #region\n  #region TEMPLATE INSERT(;)\tx\t\n#region TEMPLATE ?\n\t".toList

theorem lines_refused_at_first_fault_tabbed :
    ∃ text, Text.slice? tabbedDirectives 2 63 = some text ∧
      text.FirstFault Markers.standard.recogniser ⟨1, 28⟩ .tab ∧ text.StandsBefore ⟨1, 28⟩ '\t' ∧
      ∃ other, Text.slice? tabbedDirectives 2 39 = some other ∧
        other.FirstFault Markers.standard.recogniser ⟨1, 26⟩ (.unexpected ';') ∧
          other.StandsBefore ⟨1, 26⟩ ';' := by
  have cut : (Text.slice? tabbedDirectives 2 63).isSome = true := by decide +kernel
  have cutBefore : (Text.slice? tabbedDirectives 2 39).isSome = true := by decide +kernel
  have tab : Markers.standard.recogniser.lines tabbedDirectives 2 63 = .error (.lexical ⟨1, 28⟩ .tab) := by
    decide +kernel
  have unexpected : Markers.standard.recogniser.lines tabbedDirectives 2 39 =
      .error (.lexical ⟨1, 26⟩ (.unexpected ';')) := by
    decide +kernel
  obtain ⟨text, cut⟩ := Option.isSome_iff_exists.1 cut
  obtain ⟨other, cutBefore⟩ := Option.isSome_iff_exists.1 cutBefore
  obtain ⟨refused, _, stands, _⟩ := @lines_refused_at_first_fault Markers.standard.recogniser _ _ _ _ cut
  obtain ⟨refusedBefore, _, standsBefore, _⟩ :=
    @lines_refused_at_first_fault Markers.standard.recogniser _ _ _ _ cutBefore
  obtain ⟨_, _, same, first⟩ := (refused _).1 tab
  cases same
  obtain ⟨_, _, same, firstBefore⟩ := (refusedBefore _).1 unexpected
  cases same
  obtain ⟨_, here, ⟨_, rfl⟩ | ⟨⟨⟩⟩⟩ := stands _ _ first
  obtain ⟨_, hereBefore, ⟨⟨⟩, _⟩ | ⟨⟨⟩⟩⟩ := standsBefore _ _ firstBefore
  exact ⟨text, cut, first, here, other, cutBefore, firstBefore, hereBefore⟩

end Stencil
