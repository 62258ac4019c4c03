/-
This file shows that spaces before all lines of a text that defines templates do not change the templates.
-/
import Stencil.Proofs.Line.Rows
import Stencil.Proofs.Line.Slices
import Stencil.Proofs.Load.Concatenation
import Stencil.Proofs.Pairing.Load
import Stencil.Proofs.Shift.Line
import Stencil.Proofs.Shift.Segment

namespace Stencil

namespace Text

/-- The text with some spaces before each line that is not blank. -/
def indent (columns : Nat) (text : Text) : Text :=
  ['\n'].intercalate ((text.splitOn '\n').map (indentLine columns))

/-- The line of the text with a number is blank. -/
def isBlankLine (text : Text) (number : Nat) : Bool := allBlank ((text.splitOn '\n').getD number [])

/-- Behind the last line feed of a text that ends a line there is nothing. -/
theorem EndsLine.exists_joined {text : Text} (ends : text.EndsLine) :
    ∃ lines, text = Line.joined lines [] ∧ ∀ line ∈ lines, '\n' ∉ line := by
  obtain ⟨lines, last, rfl, noFeed, noFeedLast⟩ := Line.exists_joined text
  rcases List.eq_nil_or_concat last with rfl | ⟨front, character, rfl⟩
  · exact ⟨lines, rfl, noFeed⟩
  · rcases ends with none | ⟨before, same⟩
    · simp [Line.joined] at none
    · rw [Line.joined, List.concat_eq_append, ← List.append_assoc] at same
      obtain ⟨_, last⟩ := List.append_inj' same rfl
      exact absurd (by simp [List.cons.inj last]) noFeedLast

theorem indent_joined {lines : List Text} (noFeed : ∀ line ∈ lines, '\n' ∉ line) (columns : Nat) :
    (Line.joined lines []).indent columns = Line.joined (lines.map (indentLine columns)) [] := by
  rw [indent, splitOn_joined noFeed List.not_mem_nil, joined_eq_intercalate, List.map_append]
  rfl

end Text

/-- The names of a set with the faces of their templates. -/
def TemplateSet.faces (set : TemplateSet) : List (Text × Template.Face) :=
  set.entries.map fun entry => (entry.1, entry.2.face)

/-- A text has its lines in the same order when spaces are put before them. -/
theorem Line.classify_indented (markers : Markers) (columns : Nat) {text : Text} (ends : text.EndsLine) :
    Matches (fun error other => other = error.indent columns text.isBlankLine)
      (List.Forall₂ (Line.Indented columns)) (markers.recogniser.classify 0 text)
      (markers.recogniser.classify 0 (text.indent columns)) := by
  obtain ⟨lines, rfl, noFeed⟩ := ends.exists_joined
  have matching := @classifyFrom_matches markers.recogniser (Text.indentLine columns) (Line.Indented columns)
    (fun number line error other => (Line.joined lines []).isBlankLine number = line.allBlank →
      other = error.indent columns (Line.joined lines []).isBlankLine)
    lines [] (fun line member => ⟨noFeed line member, Text.indentLine_noFeed (noFeed line member) columns⟩)
    List.not_mem_nil (fun line _ => Text.byteSize_le_indentLine columns line)
    (fun line member => ofText_indented markers columns _ (noFeed line member))
    (fun kept => by simp at kept) 0 0 0
  rw [Text.indent_joined noFeed]
  refine matching.imp (fun error other told => ?_) fun _ _ related => related
  obtain ⟨index, line, held, same⟩ := told
  refine same ?_
  rw [Nat.zero_add, Text.isBlankLine, Text.splitOn_joined noFeed List.not_mem_nil, List.getD_eq_getElem?_getD,
    held]
  rfl

namespace Pairing

/-- A text that defines templates and the text with spaces before its lines. -/
def indented (markers : Markers) (columns : Nat) (text : Text) : Pairing where
  source := text
  other := text.indent columns
  columns := columns
  blank := text.isBlankLine
  groups first second := second.isSome = first.isSome
  plain := rfl
  known pattern := ∀ lines, Line.ofRange markers text 0 (Text.byteSize text) = .ok lines →
    pattern.FloatsOver columns lines

variable {markers : Markers} {columns : Nat} {text : Text} {line : Line}

/-- A segment has the same characters some columns later. -/
theorem pieces_indented (right : Nat) {segment other : Segment} (later : segment.Later columns other) :
    (indented markers columns text).Pieces (segment.piece line)
      (other.piece (Shift.line ⟨right, columns⟩ line)) where
  text := by
    change ((List.replicate columns ' ' ++ line.text).take other.stop).drop other.start =
      (line.text.take segment.stop).drop segment.start
    rw [later.start, later.stop]
    simp [List.take_append, List.drop_append]
  indentation? := rfl
  startsNewLine := rfl
  groups := by
    have sites : (other.piece (Shift.line ⟨right, columns⟩ line)).isSite = (segment.piece line).isSite := by
      rw [Segment.piece_isSite, Segment.piece_isSite, later.boundary?]
    exact sites

/-- A line and the indented line are alike. -/
theorem lines_indented {lines : List Line}
    (classified : Line.ofRange markers text 0 (Text.byteSize text) = .ok lines) (member : line ∈ lines)
    {other : Line} (related : line.Indented columns other) :
    (indented markers columns text).Lines line other := by
  cases related with
  | blank right kind =>
      exact
        { number := rfl
          kind := .empty kind (congrArg (Shift.kind ⟨right, 0⟩) kind)
          indentation := fun notEmpty => absurd kind notEmpty
          segments := fun notEmpty => absurd kind notEmpty }
  | content right indented =>
      have formed := (Line.ofRange_formed classified line member).1
      have sliced := Line.sliced_of_lines classified line member
      have indentation : (Shift.line ⟨right, columns⟩ line).indentation = line.indentation + columns := by
        rw [Line.indentation, Line.indentation, Shift.line, indented]
        rfl
      refine
        { number := rfl
          kind := kinds_shifted _ right fun start tokens kind token among =>
            ((sliced.tokens start tokens kind).2 token among).1
          indentation := fun _ => indentation
          segments := fun notEmpty replacements known => ?_ }
      have floats (replacement : Replacement) (among : replacement ∈ replacements) :=
        known replacement among lines classified line member notEmpty
      have later := Segment.ofLine_later floats (by simp [Nat.add_comm]) (Nat.le_refl line.indentation)
        (Nat.le_of_lt (formed.indentation_lt notEmpty))
      rw [← indentation] at later
      constructor
      · exact map_eq_map later fun _ _ same => same.boundary?
      · rw [List.forall₂_map_left_iff, List.forall₂_map_right_iff]
        exact later.imp fun _ _ same => pieces_indented right same

/-- A text and the text with spaces before its lines are alike. -/
theorem texts_indented (ends : text.EndsLine)
    (floats : ∀ lines, Line.ofRange markers text 0 (Text.byteSize text) = .ok lines →
      ∀ directive ∈ lines.flatMap Line.directives, ∀ pattern ∈ directive.pattern?,
        pattern.FloatsOver columns lines) :
    (indented markers columns text).Texts markers.recogniser where
  known lines classified directive member pattern found others same := by
    cases classified.symm.trans same
    exact floats lines classified directive member pattern found
  lines := by
    have matching := (Line.classify_indented markers columns ends).traced
    rw [← Recogniser.lines_whole, ← Recogniser.lines_whole] at matching
    refine matching.imp (fun _ _ same => same) fun lines others same => ?_
    exact forall₂_of_mem same.1 fun line member other _ related => lines_indented same.2.1 member related

end Pairing

/-- Spaces before the lines of a text that defines templates cancel out, if the patterns of its replacements
find the same behind the spaces: the text with spaces defines templates with the same faces under the same
names, or it is refused for the same fault with its columns increased. -/
theorem base_indentation_cancels (markers : Markers) (columns : Nat) {text : Text} (ends : text.EndsLine)
    (floats : ∀ lines, Line.ofRange markers text 0 (Text.byteSize text) = .ok lines →
      ∀ directive ∈ lines.flatMap Line.directives, ∀ pattern ∈ directive.pattern?,
        pattern.FloatsOver columns lines) :
    (TemplateSet.load markers (text.indent columns) 0 (Text.byteSize (text.indent columns))).map
        TemplateSet.faces =
      bimap (Stop.indent columns text.isBlankLine) TemplateSet.faces
        (TemplateSet.load markers text 0 (Text.byteSize text)) :=
  (Pairing.texts_indented ends floats).templates_alike.map_eq_bimap fun _ _ alike =>
    alike.map_eq fun _ _ same => same.face fun _ _ sites => sites

/-- Short marker words. -/
def angledMarkers : Markers := { regionStart := ['<'], regionEnd := ['>'], template := ['T'] }

/-- A definition at a column with a replacement at the end of a line. -/
def angledDefinition : Text := " < T DEFINE(\"a\")\n < T REPLACE(`b$`,$x)\n   ab\n\n >\n >\n".toList

/-- A blank line with a tab. -/
def tabbedBlank : Text := " \t\n".toList

theorem base_indentation_cancels_angled :
    (TemplateSet.load angledMarkers (angledDefinition.indent 2) 0 62).map TemplateSet.faces =
        .ok [(['a'], ⟨#[.opening 0 0 (.replace ['x'] ⟨false⟩ #[⟨1, 0⟩]), .closing 3 1], 1,
          [⟨['a'], some 2, false, false⟩, ⟨['b'], none, true, true⟩, ⟨[], none, true, false⟩]⟩)] ∧
      (TemplateSet.load angledMarkers (tabbedBlank.indent 2) 0 3).map TemplateSet.faces =
        .error (.refused (.lexical ⟨0, 1⟩ .tab)) := by
  have size : Text.byteSize angledDefinition = 52 ∧ Text.byteSize (angledDefinition.indent 2) = 62 ∧
      Text.byteSize tabbedBlank = 3 ∧ Text.byteSize (tabbedBlank.indent 2) = 3 := by decide +kernel
  have ends : angledDefinition.EndsLine := .inr ⟨angledDefinition.dropLast, by decide +kernel⟩
  have endsBlank : tabbedBlank.EndsLine := .inr ⟨tabbedBlank.dropLast, by decide +kernel⟩
  obtain ⟨lines, classified, floats⟩ : ∃ lines, Line.ofRange angledMarkers angledDefinition 0 52 = .ok lines ∧
      decide (∀ directive ∈ lines.flatMap Line.directives, ∀ pattern ∈ directive.pattern?,
        pattern.FloatsOver 2 lines) = true := exists_ok (by decide +kernel)
  have refused : Line.ofRange angledMarkers tabbedBlank 0 3 = .error (.lexical ⟨0, 1⟩ .tab) := by
    decide +kernel
  rw [← size.1] at classified
  rw [← size.2.2.1] at refused
  constructor
  · have cancels := base_indentation_cancels angledMarkers 2 ends fun others same => by
      cases classified.symm.trans same
      exact of_decide_eq_true floats
    rw [size.1, size.2.1] at cancels
    refine cancels.trans ?_
    decide +kernel
  · have cancels := base_indentation_cancels angledMarkers 2 endsBlank fun others same => by
      cases refused.symm.trans same
    rw [size.2.2.1, size.2.2.2] at cancels
    refine cancels.trans ?_
    decide +kernel

end Stencil
