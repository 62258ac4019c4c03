/-
This file shows that a line with some spaces put before it is read as the shifted line.
-/
import Stencil.Proofs.Line.Separate
import Stencil.Proofs.Shift.Basic

namespace Stencil

namespace Text

/-- The line with some spaces before it. A blank line gets none. -/
def indentLine (columns : Nat) (line : Text) : Text :=
  if line.allBlank then line else List.replicate columns ' ' ++ line

theorem indentLine_noFeed {line : Text} (noFeed : '\n' ∉ line) (columns : Nat) :
    '\n' ∉ indentLine columns line := by
  rw [indentLine]
  split
  · exact noFeed
  · simp [noFeed]

theorem byteSize_le_indentLine (columns : Nat) (line : Text) :
    byteSize line ≤ byteSize (indentLine columns line) := by
  rw [indentLine]
  split
  · exact Nat.le_refl _
  · rw [byteSize_append]
    exact Nat.le_add_left _ _

end Text

/-- Directive text stands behind some more columns. -/
def RegionMark.indent (columns : Nat) : RegionMark → RegionMark
  | .opening directives? =>
      .opening (directives?.map fun directives => ⟨directives.column + columns, directives.text⟩)
  | .closing => .closing

namespace Markers

variable {markers : Markers}

theorem trimStart_spaces (columns : Nat) (line : Text) :
    Text.trimStart (List.replicate columns ' ' ++ line) = Text.trimStart line :=
  List.dropWhile_append_of_pos fun character member => by
    rw [List.eq_of_mem_replicate member]
    rfl

theorem byteSize_trimStart_le (text : Text) : Text.byteSize (Text.trimStart text) ≤ Text.byteSize text := by
  obtain ⟨blanks, same⟩ := trimStart_suffix text
  have sizes := congrArg Text.byteSize same
  rw [Text.byteSize_append] at sizes
  omega

theorem byteSize_dropWord?_le {word text rest : Text} (found : Text.dropWord? word text = some rest) :
    Text.byteSize rest ≤ Text.byteSize text := by
  rw [dropWord?_append found, Text.byteSize_append]
  exact Nat.le_add_left _ _

/-- Spaces before a line shift its directive text. -/
theorem directives?_indented (columns : Nat) {line afterStart : Text}
    (inside : Text.byteSize afterStart ≤ Text.byteSize line) :
    markers.directives? (List.replicate columns ' ' ++ line) afterStart =
      (markers.directives? line afterStart).map fun directives =>
        ⟨directives.column + columns, directives.text⟩ := by
  rw [directives?, directives?]
  cases template : Text.dropWord? markers.template (Text.trimStart afterStart) with
  | none => rfl
  | some afterTemplate =>
      dsimp only
      split
      · have size : Text.byteSize (Text.trimStart afterTemplate) ≤ Text.byteSize line :=
          calc
            _ ≤ Text.byteSize afterTemplate := byteSize_trimStart_le _
            _ ≤ Text.byteSize (Text.trimStart afterStart) := byteSize_dropWord?_le template
            _ ≤ Text.byteSize afterStart := byteSize_trimStart_le _
            _ ≤ Text.byteSize line := inside
        have column : Text.byteSize (List.replicate columns ' ' ++ line) -
            Text.byteSize (Text.trimStart afterTemplate) =
              Text.byteSize line - Text.byteSize (Text.trimStart afterTemplate) + columns := by
          rw [Text.byteSize_append, Text.byteSize_spaces]
          omega
        rw [column]
        rfl
      · rfl

/-- Marker words are recognised behind more spaces. -/
theorem recognise_indented (columns : Nat) (line : Text) :
    markers.recognise (List.replicate columns ' ' ++ line) =
      (markers.recognise line).map (RegionMark.indent columns) := by
  rw [recognise, recognise, trimStart_spaces]
  split
  · next afterStart start =>
      have inside : Text.byteSize afterStart ≤ Text.byteSize line :=
        Nat.le_trans (byteSize_dropWord?_le (Option.filter_eq_some_iff.1 start).1)
          (byteSize_trimStart_le line)
      rw [directives?_indented columns inside]
      rfl
  · split <;> rfl

end Markers

namespace Shift

variable (shift : Shift)

/-- The draft of a line that has spaces before it. -/
def draft (draft : Line.Draft) : Line.Draft :=
  { draft with
    start := draft.start + shift.right
    reversed := draft.reversed ++ List.replicate shift.columns ' '
    size := draft.size + shift.columns
    indentation := draft.indentation + shift.columns }

theorem push_shifted (draft : Line.Draft) (character : Char) :
    (shift.draft draft).push character = shift.draft (draft.push character) := by
  have indentation : ((shift.draft draft).push character).indentation =
      (shift.draft (draft.push character)).indentation := by
    dsimp only [Line.Draft.push, Shift.draft]
    split
    · exact Nat.add_right_comm _ _ _
    · rfl
  have size : ((shift.draft draft).push character).size = (shift.draft (draft.push character)).size :=
    Nat.add_right_comm _ _ _
  rw [Line.Draft.mk.injEq]
  exact ⟨rfl, rfl, rfl, size, indentation, rfl⟩

theorem read_shifted {text : Text} (noFeed : '\n' ∉ text) (draft : Line.Draft) :
    (shift.draft draft).read text = shift.draft (draft.read text) := by
  induction text generalizing draft with
  | nil => rfl
  | cons character rest ih =>
      rw [List.mem_cons, not_or] at noFeed
      rw [Line.Draft.read, Line.Draft.read, if_neg (Ne.symm noFeed.1), if_neg (Ne.symm noFeed.1),
        push_shifted, ih noFeed.2]

/-- Spaces before a line make the shifted draft of its start. -/
theorem read_spaces (number start columns : Nat) :
    (Line.Draft.fresh number start).read (List.replicate columns ' ') =
      ⟨number, start, List.replicate columns ' ', columns, columns, false⟩ := by
  induction columns with
  | zero => rfl
  | succ columns ih =>
      rw [List.replicate_succ', Line.Draft.read_append, ih, ← List.replicate_succ', List.replicate_succ]
      rfl

/-- The carriage return behind a line is no part of it behind spaces either. -/
theorem text_shifted (draft : Line.Draft) :
    (shift.draft draft).text = List.replicate shift.columns ' ' ++ draft.text := by
  have spaces : (List.replicate shift.columns ' ').reverse = List.replicate shift.columns ' ' :=
    List.reverse_replicate
  have reversed : (shift.draft draft).reversed = draft.reversed ++ List.replicate shift.columns ' ' := rfl
  rw [Line.Draft.text, Line.Draft.text, reversed]
  split
  · next earlier same =>
      cases found : draft.reversed with
      | nil =>
          rw [found, List.nil_append] at same
          have member : '\r' ∈ List.replicate shift.columns ' ' := same ▸ List.mem_cons_self
          exact absurd (List.eq_of_mem_replicate member) (by decide)
      | cons first rest =>
          rw [found, List.cons_append] at same
          obtain ⟨rfl, rfl⟩ := List.cons.inj same
          rw [List.reverse_append, spaces]
          rfl
  · next other =>
      split
      · next rest found =>
          exact absurd (by rw [found]; rfl) (other (rest ++ List.replicate shift.columns ' '))
      · rw [List.reverse_append, spaces]

theorem kind_shifted (markers : Markers) (blank : Nat → Bool) (draft : Line.Draft) :
    (shift.draft draft).kind markers.recogniser =
      bimap (Error.indent shift.columns blank) shift.kind (draft.kind markers.recogniser) := by
  have mark : markers.recogniser.mark? (List.replicate shift.columns ' ' ++ draft.text) =
      (markers.recogniser.mark? draft.text).map (RegionMark.indent shift.columns) :=
    Markers.recognise_indented shift.columns draft.text
  rw [Line.Draft.kind, Line.Draft.kind, text_shifted, mark]
  cases markers.recogniser.mark? draft.text with
  | none => rfl
  | some mark =>
      cases mark with
      | closing => rfl
      | opening directives? =>
          cases directives? with
          | none => rfl
          | some directives =>
              have start : draft.start + shift.right + (directives.column + shift.columns) =
                  draft.start + directives.column + (shift.right + shift.columns) := by omega
              dsimp only [Option.map_some, RegionMark.indent, Shift.draft]
              rw [start, shift.scan_shifted blank, map_bimap, bimap_map]
              rfl

/-- A line that is not blank is finished as the shifted line if spaces are put before it. -/
theorem finish_shifted (markers : Markers) (blank : Nat → Bool) {draft : Line.Draft}
    (content : Text.allBlank draft.text = false) :
    (shift.draft draft).finish markers.recogniser =
      bimap (Error.indent shift.columns blank) shift.line (draft.finish markers.recogniser) := by
  have more : Text.allBlank (List.replicate shift.columns ' ' ++ draft.text) = false := by
    rw [Text.allBlank, List.all_append]
    exact Bool.and_eq_false_iff.2 (.inr content)
  rw [Line.Draft.finish, Line.Draft.finish, text_shifted, more, content, if_neg Bool.false_ne_true,
    if_neg Bool.false_ne_true, kind_shifted, map_bimap, bimap_map]
  rfl

end Shift

namespace Line

/-- A line in the text with more columns: a blank line stands later, and another one has spaces before it. -/
inductive Indented (columns : Nat) (line : Line) : Line → Prop where
  | blank (right : Nat) (kind : line.kind = .empty) : Indented columns line (Shift.line ⟨right, 0⟩ line)
  | content (right : Nat) {indentation : Nat} (indented : line.indentation? = some indentation) :
      Indented columns line (Shift.line ⟨right, columns⟩ line)

/-- A line is blank if its characters are, with or without a carriage return at the end. -/
theorem Draft.allBlank_text (draft : Draft) :
    Text.allBlank draft.text = Text.allBlank draft.reversed.reverse := by
  obtain ⟨tail, whole, ending⟩ := draft.text_append
  rw [← whole, Text.allBlank, Text.allBlank, List.all_append]
  rcases ending with rfl | rfl
  · exact (Bool.and_true _).symm
  · exact (Bool.and_true _).symm

/-- A line with spaces before it is the indented line, or it is refused some columns later. A blank line is
refused where it was. -/
theorem ofText_indented (markers : Markers) (columns : Nat) (blank : Nat → Bool) {line : Text}
    (noFeed : '\n' ∉ line) (number start right : Nat) :
    Matches (fun error other => blank number = line.allBlank → other = error.indent columns blank)
      (Indented columns) (ofText markers.recogniser number start line)
      (ofText markers.recogniser number (start + right) (Text.indentLine columns line)) := by
  -- A tab is refused before it is known whether its line is blank.
  by_cases tab : '\t' ∈ line
  · obtain ⟨before, after, rfl, noTab⟩ := List.eq_append_cons_of_mem tab
    have noTabSpaces : '\t' ∉ List.replicate columns ' ' ++ before := by
      simp [noTab]
    rw [ofText_tab noTab, Text.indentLine]
    split
    · next blankLine =>
        rw [ofText_tab noTab]
        refine .error fun told => ?_
        rw [Error.indent, told, if_pos blankLine]
    · next content =>
        rw [← List.append_assoc, ofText_tab noTabSpaces]
        refine .error fun told => ?_
        rw [Error.indent, told, if_neg content, Text.byteSize_append, Text.byteSize_spaces, Nat.add_comm]
        rfl
  · obtain ⟨_, _, reversed, _⟩ := @Draft.read_noFeed (Draft.fresh number start) line noFeed
    have blankText : Text.allBlank ((Draft.fresh number start).read line).text = line.allBlank := by
      rw [Draft.allBlank_text, reversed]
      simp [Draft.fresh]
    cases same : line.allBlank with
    | true =>
        have finished : ofText markers.recogniser number start line =
            .ok ⟨((Draft.fresh number start).read line).number, ((Draft.fresh number start).read line).start,
              ((Draft.fresh number start).read line).text, none, .empty⟩ := by
          rw [ofText_noTab tab, Draft.finish, blankText, if_pos same]
        rw [Text.indentLine, if_pos same, ofText_right, finished]
        exact .ok (.blank right rfl)
    | false =>
        have noTabSpaces : '\t' ∉ List.replicate columns ' ' ++ line := by
          simp [tab]
        have read : (Draft.fresh number (start + right)).read (List.replicate columns ' ' ++ line) =
            (Shift.mk right columns).draft ((Draft.fresh number start).read line) := by
          rw [Draft.read_append, Shift.read_spaces, ← Shift.read_shifted _ noFeed]
          simp [Shift.draft, Draft.fresh]
        have finished := (Shift.mk right columns).finish_shifted markers blank (blankText.trans same)
        rw [Text.indentLine, if_neg (by rw [same]; exact Bool.false_ne_true), ofText_noTab tab,
          ofText_noTab noTabSpaces, read, finished, Draft.finish, blankText, same, if_neg Bool.false_ne_true]
        cases ((Draft.fresh number start).read line).kind markers.recogniser with
        | error error => exact .error fun _ => rfl
        | ok kind => exact .ok (.content right rfl)

end Line

end Stencil
