/-
This file says at which row a text is refused when its lines are classified: at the first row that has a tab or
directive text that cannot be cut into tokens.
-/
import Mathlib.Data.Nat.Find
import Stencil.Proofs.Line.Rows
import Stencil.Proofs.Token.Column

namespace Stencil

/-- The directive text of a row is refused when it is cut into tokens. -/
def Recogniser.RefusesDirectives (recogniser : Recogniser) (index : Nat) (row : Text) (error : Error) : Prop :=
  ¬Text.allBlank row.chomp ∧ ∃ directives, recogniser.mark? row.chomp = some (.opening (some directives)) ∧
    Token.scan index directives.column directives.column directives.text = .error error

/-- A row has a fault at a byte column: its first tab or, if it has no tab, what its directive text is refused
for. -/
inductive Recogniser.RowFault (recogniser : Recogniser) (index : Nat) (row : Text) : Nat → LexicalFault → Prop where
  | tab {before after : Text} (split : row = before ++ '\t' :: after) (first : '\t' ∉ before) :
      RowFault recogniser index row (Text.byteSize before) .tab
  | directives {column : Nat} {character : Char} (noTab : '\t' ∉ row)
      (refuses : recogniser.RefusesDirectives index row (.lexical ⟨index, column⟩ (.unexpected character))) :
      RowFault recogniser index row column (.unexpected character)

theorem Recogniser.RowFault.tab_iff {recogniser : Recogniser} {index column : Nat} {row : Text}
    {fault : LexicalFault} (faulty : recogniser.RowFault index row column fault) :
    fault = .tab ↔ '\t' ∈ row := by
  cases faulty with
  | tab split => exact iff_of_true rfl (split ▸ List.mem_append_right _ List.mem_cons_self)
  | directives noTab => exact iff_of_false nofun noTab

/-- Of some rows, the first of which has a number, the first with a fault has an index. -/
structure Recogniser.FirstFaulty (recogniser : Recogniser) (number : Nat) (rows : List Text)
    (index column : Nat) (fault : LexicalFault) : Prop where
  faulty : ∃ row, rows[index]? = some row ∧ recogniser.RowFault (number + index) row column fault
  first : ∀ earlier row column fault, rows[earlier]? = some row →
    recogniser.RowFault (number + earlier) row column fault → index ≤ earlier

namespace Recogniser.FirstFaulty

variable {recogniser : Recogniser} {number index column : Nat} {row : Text} {rows : List Text} {fault : LexicalFault}

theorem here (faulty : recogniser.RowFault number row column fault) :
    recogniser.FirstFaulty number (row :: rows) 0 column fault where
  faulty := ⟨row, rfl, faulty⟩
  first _ _ _ _ _ _ := Nat.zero_le _

/-- Behind a row without a fault the other rows are counted on. -/
theorem succ_iff (sound : ∀ column fault, ¬recogniser.RowFault number row column fault) :
    recogniser.FirstFaulty number (row :: rows) (index + 1) column fault ↔
      recogniser.FirstFaulty (number + 1) rows index column fault := by
  have behind (index : Nat) : number + 1 + index = number + (index + 1) := by omega
  constructor
  · rintro ⟨⟨other, found, faulty⟩, first⟩
    refine ⟨⟨other, found, by rwa [behind]⟩, fun earlier another place cause held faults => ?_⟩
    rw [behind] at faults
    exact Nat.le_of_succ_le_succ (first (earlier + 1) another place cause held faults)
  · rintro ⟨⟨other, found, faulty⟩, first⟩
    rw [behind] at faulty
    refine ⟨⟨other, found, faulty⟩, fun earlier another place cause held faults => ?_⟩
    cases earlier with
    | zero =>
        cases held
        exact absurd faults (sound place cause)
    | succ earlier =>
        rw [← behind] at faults
        exact Nat.succ_le_succ (first earlier another place cause held faults)

/-- If the first row has a fault it is the first with one. -/
theorem eq_zero (faulty : ∃ column fault, recogniser.RowFault number row column fault)
    (first : recogniser.FirstFaulty number (row :: rows) index column fault) :
    index = 0 ∧ recogniser.RowFault number row column fault := by
  obtain ⟨place, cause, here⟩ := faulty
  obtain rfl : index = 0 := Nat.le_zero.1 (first.first 0 row place cause rfl here)
  obtain ⟨_, found, faulty⟩ := first.faulty
  cases found
  exact ⟨rfl, faulty⟩

end Recogniser.FirstFaulty

namespace Text

variable {recogniser : Recogniser} {text : Text} {place : Place} {fault : LexicalFault}

/-- A text has a fault at a place of one of its rows. In a last row of fewer than two characters, which is left
out, only a tab is a fault. -/
def FaultAt (recogniser : Recogniser) (text : Text) (place : Place) (fault : LexicalFault) : Prop :=
  ∃ row, text.rows[place.line]? = some row ∧ recogniser.RowFault place.line row place.column fault ∧
    (fault = .tab ∨ text.keptRows[place.line]? = some row)

/-- No row before the one of this fault has a fault. -/
def FirstFault (recogniser : Recogniser) (text : Text) (place : Place) (fault : LexicalFault) : Prop :=
  text.FaultAt recogniser place fault ∧
    ∀ other cause, text.FaultAt recogniser other cause → place.line ≤ other.line

/-- A text with a fault has a first one. -/
theorem FaultAt.exists_first (faulty : text.FaultAt recogniser place fault) :
    ∃ place fault, text.FirstFault recogniser place fault := by
  classical
  have some : ∃ index place fault, place.line = index ∧ text.FaultAt recogniser place fault :=
    ⟨place.line, place, fault, rfl, faulty⟩
  obtain ⟨first, cause, line, here⟩ := Nat.find_spec some
  refine ⟨first, cause, here, fun other cause faulty => ?_⟩
  rw [line]
  exact Nat.find_min' some ⟨other, cause, rfl, faulty⟩

end Text

/-- Where a directive text stands does not matter for its refusal. -/
theorem Token.scan_error_right {line column start right : Nat} {text : Text} {error : Error} :
    scan line column (start + right) text = .error error ↔ scan line column start text = .error error := by
  have moved := Move.scan_moved ⟨0, right⟩ line column start text
  have still (error : Error) : Move.error ⟨0, right⟩ error = error :=
    Stop.refused.inj (Move.stop_right right (.refused error))
  rw [bimap_eq_map still] at moved
  change scan line column (start + right) text = _ at moved
  rw [moved]
  cases scan line column start text with
  | error other => exact Iff.rfl
  | ok tokens => exact iff_of_false nofun nofun

namespace Line

variable {recogniser : Recogniser} {number start : Nat}

/-- Exactly the rows with a fault are refused, for their fault. -/
theorem ofText_error_iff {row : Text} (noFeed : '\n' ∉ row) {error : Error} :
    ofText recogniser number start row = .error error ↔
      ∃ column fault, error = .lexical ⟨number, column⟩ fault ∧ recogniser.RowFault number row column fault := by
  by_cases tab : '\t' ∈ row
  · obtain ⟨before, after, rfl, noTab⟩ := List.eq_append_cons_of_mem tab
    constructor
    · intro failure
      rw [ofText_tab noTab] at failure
      cases failure
      exact ⟨_, _, rfl, .tab rfl noTab⟩
    · rintro ⟨column, fault, rfl, faulty⟩
      cases faulty with
      | tab split first => rw [split, ofText_tab first]
      | directives none => exact absurd tab none
  · obtain ⟨count, begin, reversed, _⟩ := @Draft.read_noFeed (Draft.fresh number start) row noFeed
    have chomped : ((Draft.fresh number start).read row).text = row.chomp := by
      rw [Draft.text_eq_chomp, reversed, Draft.fresh, List.append_nil, List.reverse_reverse]
    have placed : (Draft.fresh number start).start = start := rfl
    have counted : (Draft.fresh number start).number = number := rfl
    rw [ofText_noTab tab, Draft.finish_error_iff, chomped, count, begin, placed, counted]
    constructor
    · rintro ⟨content, directives, mark, refused⟩
      rw [Nat.add_comm, Token.scan_error_right] at refused
      obtain ⟨part, character, _, _, _, rfl⟩ := Token.scan_refused refused
      exact ⟨_, _, rfl, .directives tab ⟨content, directives, mark, refused⟩⟩
    · rintro ⟨column, fault, rfl, faulty⟩
      cases faulty with
      | tab split _ => exact absurd (split ▸ List.mem_append_right _ List.mem_cons_self) tab
      | directives _ refuses =>
          obtain ⟨content, directives, mark, refused⟩ := refuses
          refine ⟨content, directives, mark, ?_⟩
          rw [Nat.add_comm, Token.scan_error_right]
          exact refused

/-- Some rows are refused for the fault of the first of them that has one. -/
theorem ofRows_error_iff {rows : List Text} (noFeed : ∀ row ∈ rows, '\n' ∉ row) {error : Error} :
    ofRows recogniser number start rows = .error error ↔
      ∃ index column fault, error = .lexical ⟨number + index, column⟩ fault ∧
        recogniser.FirstFaulty number rows index column fault := by
  induction rows generalizing number start with
  | nil =>
      refine iff_of_false nofun ?_
      rintro ⟨_, _, _, _, ⟨_, found, _⟩, _⟩
      cases found
  | cons row rows ih =>
      obtain ⟨here, later⟩ := List.forall_mem_cons.1 noFeed
      rw [ofRows]
      cases read : ofText recogniser number start row with
      | error stop =>
          obtain ⟨column, fault, rfl, faulty⟩ := (ofText_error_iff here).1 read
          constructor
          · rintro ⟨⟩
            exact ⟨0, column, fault, rfl, .here faulty⟩
          · rintro ⟨index, place, cause, rfl, first⟩
            obtain ⟨rfl, faults⟩ := first.eq_zero ⟨column, fault, faulty⟩
            cases read.symm.trans ((ofText_error_iff here).2 ⟨place, cause, rfl, faults⟩)
            rfl
      | ok line =>
          have sound : ∀ column fault, ¬recogniser.RowFault number row column fault := fun column fault faulty => by
            rw [(ofText_error_iff here).2 ⟨column, fault, rfl, faulty⟩] at read
            cases read
          have behind (index : Nat) : number + 1 + index = number + (index + 1) := by omega
          change Except.map _ (ofRows recogniser (number + 1) (start + Text.byteSize row + 1) rows) = _ ↔ _
          constructor
          · intro failure
            obtain ⟨index, column, fault, rfl, first⟩ := (ih later).1 (map_error failure)
            exact ⟨index + 1, column, fault, by rw [behind], (Recogniser.FirstFaulty.succ_iff sound).2 first⟩
          · rintro ⟨index, column, fault, rfl, first⟩
            cases index with
            | zero =>
                obtain ⟨_, found, faulty⟩ := first.faulty
                cases found
                exact absurd faulty (sound column fault)
            | succ index =>
                have fails := (Recogniser.FirstFaulty.succ_iff sound).1 first
                rw [(ih later).2 ⟨index, column, fault, by rw [behind], fails⟩]
                rfl

/-- A row is read if it is not left out as the last one, or has a tab. -/
theorem getElem?_read_iff {rows : List Text} {last row : Text} {index : Nat} :
    (rows ++ if '\t' ∉ last ∧ last.length < 2 then [] else [last])[index]? = some row ↔
      (rows ++ [last])[index]? = some row ∧
        ('\t' ∈ row ∨ (rows ++ if last.length < 2 then [] else [last])[index]? = some row) := by
  rcases Nat.lt_or_ge index rows.length with inside | behind
  · simp only [List.getElem?_append_left inside]
    exact ⟨fun found => ⟨found, .inr found⟩, And.left⟩
  · simp only [List.getElem?_append_right behind]
    by_cases tab : '\t' ∈ last <;> by_cases short : last.length < 2 <;>
      simp [tab, short, List.getElem?_singleton] <;> grind

/-- The faults of a text are those of the rows that are read. -/
theorem faultAt_joined_iff {rows : List Text} {last : Text} (noFeed : ∀ row ∈ rows, '\n' ∉ row)
    (noFeedLast : '\n' ∉ last) {place : Place} {fault : LexicalFault} :
    (joined rows last).FaultAt recogniser place fault ↔ ∃ row,
      (rows ++ if '\t' ∉ last ∧ last.length < 2 then [] else [last])[place.line]? = some row ∧
        recogniser.RowFault place.line row place.column fault := by
  rw [Text.FaultAt, Text.keptRows_joined noFeed noFeedLast, Text.rows, Text.splitOn_joined noFeed noFeedLast]
  refine exists_congr fun row => ?_
  rw [getElem?_read_iff]
  constructor
  · rintro ⟨found, faulty, processed⟩
    exact ⟨⟨found, processed.imp_left faulty.tab_iff.1⟩, faulty⟩
  · rintro ⟨⟨found, processed⟩, faulty⟩
    exact ⟨found, faulty, processed.imp_left faulty.tab_iff.2⟩

/-- A text is refused exactly for the fault of the first row that has one. -/
theorem classify_error_iff {text : Text} {error : Error} :
    recogniser.classify start text = .error error ↔
      ∃ place fault, error = .lexical place fault ∧ text.FirstFault recogniser place fault := by
  obtain ⟨rows, last, rfl, noFeed, noFeedLast⟩ := exists_joined text
  have free : ∀ row ∈ rows ++ if '\t' ∉ last ∧ last.length < 2 then [] else [last], '\n' ∉ row := by
    refine List.forall_mem_append.2 ⟨noFeed, ?_⟩
    split
    · exact nofun
    · exact List.forall_mem_singleton.2 noFeedLast
  change classifyFrom recogniser (Draft.fresh 0 start) (joined rows last) = _ ↔ _
  rw [classifyFrom_joined noFeed noFeedLast, ofRows_error_iff free]
  simp only [Nat.zero_add, Text.FirstFault, faultAt_joined_iff noFeed noFeedLast]
  constructor
  · rintro ⟨index, column, fault, rfl, ⟨faulty, first⟩⟩
    rw [Nat.zero_add] at faulty
    refine ⟨⟨index, column⟩, fault, rfl, faulty, fun other cause faults => ?_⟩
    obtain ⟨row, held, faults⟩ := faults
    exact first other.line row other.column cause held (by rwa [Nat.zero_add])
  · rintro ⟨⟨index, column⟩, fault, rfl, faulty, first⟩
    refine ⟨index, column, fault, rfl, by rwa [Nat.zero_add], fun earlier row place cause held faults => ?_⟩
    rw [Nat.zero_add] at faults
    exact first ⟨earlier, place⟩ cause ⟨row, held, faults⟩

end Line

end Stencil
