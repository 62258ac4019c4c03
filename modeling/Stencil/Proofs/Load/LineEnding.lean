/-
This file shows that a load does not tell a line feed from a carriage return and a line feed.
-/
import Stencil.Proofs.Decided
import Stencil.Proofs.Line.Separate
import Stencil.Proofs.Line.Slices
import Stencil.Proofs.Load.Definition
import Stencil.Proofs.Pairing.Load

namespace Stencil

namespace Text

/-- The text with a carriage return before each line feed. -/
def withReturns (text : Text) : Text :=
  text.flatMap fun character => if character = '\n' then ['\r', '\n'] else [character]

theorem withReturns_noFeed {line : Text} (noFeed : '\n' ∉ line) : line.withReturns = line := by
  induction line with
  | nil => rfl
  | cons character rest ih =>
      rw [List.mem_cons, not_or] at noFeed
      rw [withReturns, List.flatMap_cons, if_neg (Ne.symm noFeed.1), List.singleton_append]
      exact congrArg (character :: ·) (ih noFeed.2)

/-- Each line of the text gets its carriage return. -/
theorem withReturns_joined {lines : List Text} {last : Text} (noFeed : ∀ line ∈ lines, '\n' ∉ line)
    (noFeedLast : '\n' ∉ last) :
    (Line.joined lines last).withReturns = Line.joined (lines.map (· ++ ['\r'])) last := by
  induction lines with
  | nil => exact withReturns_noFeed noFeedLast
  | cons line rest ih =>
      obtain ⟨here, later⟩ := List.forall_mem_cons.1 noFeed
      have spread (first second : Text) :
          (first ++ second).withReturns = first.withReturns ++ second.withReturns := List.flatMap_append
      have feed (rest : Text) : withReturns ('\n' :: rest) = '\r' :: '\n' :: rest.withReturns := rfl
      rw [List.map_cons, Line.joined_cons, Line.joined_cons, spread, feed, withReturns_noFeed here, ih later,
        List.append_assoc]
      rfl

/-- In a text without carriage returns before line feeds no line ends with one. -/
theorem getLast?_ne_return {lines : List Text} {last : Text}
    (plain : ¬['\r', '\n'] <:+: Line.joined lines last) {line : Text} (member : line ∈ lines) :
    line.getLast? ≠ some '\r' := by
  intro ending
  obtain ⟨front, rfl⟩ := List.getLast?_eq_some_iff.1 ending
  obtain ⟨before, after, rfl⟩ := List.append_of_mem member
  refine plain ⟨before.flatMap (· ++ ['\n']) ++ front, after.flatMap (· ++ ['\n']) ++ last, ?_⟩
  simp [Line.joined]

/-- The texts of the groups of a site. A group that took no part has none. -/
def groupTexts? (source : Text) (groups? : Option (List (Option Span))) :
    Option (List (Option (Option Text))) :=
  groups?.map (List.map (Option.map fun span => slice? source span.start span.stop))

end Text

/-- What a template has apart from where its pieces and groups stand in the source. -/
structure Template.Content where
  face : Face
  groupTexts : List (Option (List (Option (Option Text))))
  deriving Repr, DecidableEq

def Template.content (template : Template) : Content where
  face := template.face
  groupTexts := template.pieces.toList.map fun piece => Text.groupTexts? template.source piece.groups?

/-- The names of a set with what their templates have. -/
def TemplateSet.contents (set : TemplateSet) : List (Text × Template.Content) :=
  set.entries.map fun entry => (entry.1, entry.2.content)

namespace Line

variable {recogniser : Recogniser}

/-- Behind a draft that does not end with a carriage return, one more is not a part of the line. -/
theorem Draft.finish_return {draft : Draft} (plain : draft.reversed.head? ≠ some '\r') :
    (draft.push '\r').finish recogniser = draft.finish recogniser := by
  have text : (draft.push '\r').text = draft.text := by
    change draft.reversed.reverse = _
    rw [Draft.text]
    split
    · next earlier same =>
        rw [same] at plain
        exact absurd rfl plain
    · rfl
  have indentation : (draft.push '\r').indentation = draft.indentation := by
    rw [Draft.push, if_neg (fun space => absurd space.1 (by decide))]
  rw [finish, finish, kind, kind, text, indentation]
  rfl

/-- A carriage return behind a line does not change the line. -/
theorem ofText_return {line : Text} (noFeed : '\n' ∉ line) (plain : line.getLast? ≠ some '\r')
    (number start : Nat) :
    ofText recogniser number start (line ++ ['\r']) = ofText recogniser number start line := by
  by_cases tab : '\t' ∈ line
  · obtain ⟨before, after, rfl, noTab⟩ := List.eq_append_cons_of_mem tab
    rw [List.append_assoc, List.cons_append, ofText_tab noTab, ofText_tab noTab]
  · obtain ⟨_, _, reversed, _⟩ := @Draft.read_noFeed (Draft.fresh number start) line noFeed
    rw [ofText_noTab tab, ofText_noTab (by simp [tab]), Draft.read_append, Draft.read, Draft.read,
      if_neg (by decide)]
    refine Draft.finish_return ?_
    rw [reversed, Draft.fresh, List.append_nil, List.head?_reverse]
    exact plain

/-- A text has its lines in the same order when carriage returns are put before its line feeds. -/
theorem classify_withReturns (recogniser : Recogniser) {text : Text} (plain : ¬['\r', '\n'] <:+: text) :
    Matches (fun error other => other = error)
      (List.Forall₂ fun line other => ∃ right, other = Move.line ⟨0, right⟩ line)
      (recogniser.classify 0 text) (recogniser.classify 0 text.withReturns) := by
  obtain ⟨lines, last, rfl, noFeed, noFeedLast⟩ := exists_joined text
  have moved (line : Text) (number start right : Nat) :
      Matches (fun error other => other = error)
        (fun line other => ∃ right, other = Move.line ⟨0, right⟩ line)
        (ofText recogniser number start line) (ofText recogniser number (start + right) line) := by
    rw [ofText_right]
    cases ofText recogniser number start line with
    | error error => exact .error rfl
    | ok line => exact .ok ⟨right, rfl⟩
  have apart : ∀ line ∈ lines, '\n' ∉ line ∧ '\n' ∉ line ++ ['\r'] := fun line member =>
    ⟨noFeed line member, by simp [noFeed line member]⟩
  have grows : ∀ line ∈ lines, Text.byteSize line ≤ Text.byteSize (line ++ ['\r']) := fun line _ => by
    rw [Text.byteSize_append]
    exact Nat.le_add_right _ _
  have matching := @classifyFrom_matches recogniser (· ++ ['\r'])
    (fun line other => ∃ right, other = Move.line ⟨0, right⟩ line) (fun _ _ error other => other = error)
    lines last apart noFeedLast grows
    (fun line member number start right => by
      rw [ofText_return (noFeed line member) (Text.getLast?_ne_return plain member)]
      exact moved line number start right)
    (fun _ number start right => moved last number start right) 0 0 0
  rw [Text.withReturns_joined noFeed noFeedLast]
  exact matching.imp (fun _ _ ⟨_, _, _, same⟩ => same) fun _ _ related => related

end Line

namespace Segment

/-- The slice of the source at a span of a line is a slice of the line. -/
theorem slice?_lineSpan {source : Text} {line : Line} (lies : Text.LiesAt source line.start line.text)
    (start stop : Nat) :
    Text.slice? source (lineSpan line start stop).start (lineSpan line start stop).stop =
      Text.slice? line.text (Text.byteSize (line.text.take start)) (Text.byteSize (line.text.take stop)) := by
  have boundary (position : Nat) : Text.IsBoundary line.text (Text.byteSize (line.text.take position)) :=
    ⟨line.text.take position, line.text.drop position, (List.take_append_drop _ _).symm, rfl⟩
  exact lies.slice?_add (boundary start) (boundary stop)

/-- The texts of the groups of a segment are parts of its line. -/
theorem groupTexts?_eq {source : Text} {line : Line} (lies : Text.LiesAt source line.start line.text)
    (segment : Segment) :
    Text.groupTexts? source (segment.groups? line) =
      Text.groupTexts? line.text (segment.groups? { line with start := 0 }) := by
  have whole : Text.LiesAt line.text 0 line.text := ⟨[], [], by simp, rfl⟩
  have alone := @slice?_lineSpan line.text { line with start := 0 } whole
  cases segment with
  | plain start stop => rfl
  | site boundary found =>
      simp only [Text.groupTexts?, groups?, Option.map_some, List.map_cons, List.map_map, Function.comp_def,
        Option.map_map, slice?_lineSpan lies, alone]

end Segment

namespace Pairing

/-- A text and the text with its carriage returns. -/
def withReturns (text : Text) : Pairing where
  source := text
  other := text.withReturns
  columns := 0
  blank _ := false
  groups first second := Text.groupTexts? text.withReturns second = Text.groupTexts? text first
  plain := rfl
  known _ := True

/-- A line that starts later is alike. -/
theorem lines_withReturns {text : Text} {right : Nat} {line : Line} (sliced : line.Sliced text)
    (lies : Text.LiesAt text line.start line.text)
    (moved : Text.LiesAt text.withReturns (line.start + right) line.text) :
    (withReturns text).Lines line (Move.line ⟨0, right⟩ line) where
  number := rfl
  kind := by
    rw [← Shift.line_still]
    exact kinds_shifted _ right fun start tokens kind token among =>
      ((sliced.tokens start tokens kind).2 token among).1
  indentation _ := rfl
  segments _ replacements _ := by
    refine ⟨rfl, ?_⟩
    rw [List.forall₂_map_left_iff, List.forall₂_map_right_iff]
    refine List.forall₂_same.2 fun segment _ => ⟨rfl, rfl, rfl, ?_⟩
    have here := Segment.groupTexts?_eq lies segment
    have there := @Segment.groupTexts?_eq _ (Move.line ⟨0, right⟩ line) moved segment
    exact there.trans here.symm

/-- A text and the text with its carriage returns are alike. -/
theorem texts_withReturns (recogniser : Recogniser) {text : Text} (plain : ¬['\r', '\n'] <:+: text) :
    (withReturns text).Texts recogniser where
  known _ _ _ _ _ _ := trivial
  lines := by
    have matching := (Line.classify_withReturns recogniser plain).traced
    rw [← Recogniser.lines_whole, ← Recogniser.lines_whole] at matching
    refine matching.imp (fun error other same => ?_) fun lines others same => ?_
    · exact same.trans (Stop.refused.inj (Stop.indent_zero (fun _ => false) (.refused error))).symm
    · obtain ⟨related, classified, classifiedOthers⟩ := same
      refine forall₂_of_mem related fun line member other among moved => ?_
      obtain ⟨right, rfl⟩ := moved
      exact lines_withReturns (Line.sliced_of_lines classified line member)
        (Recogniser.lines_formed classified line member).2
        (Recogniser.lines_formed classifiedOthers _ among).2

theorem content_withReturns {text : Text} {template other : Template}
    (alike : (withReturns text).Templates template other) : other.content = template.content := by
  have groups : other.content.groupTexts = template.content.groupTexts :=
    map_eq_map alike.pieces fun piece pair same => by
      rw [alike.otherSource, alike.source]
      exact same.groups
  have sites (first second : Option (List (Option Span)))
      (same : (withReturns text).groups first second) : second.isSome = first.isSome := by
    have sizes := congrArg Option.isSome same
    rwa [Text.groupTexts?, Text.groupTexts?, Option.isSome_map, Option.isSome_map] at sizes
  have face : other.content.face = template.content.face := alike.face sites
  exact congrArg₂ Template.Content.mk face groups

end Pairing

/-- If no carriage return stands before a line feed of a text, carriage returns before all line feeds change
nothing in a load: it is refused with the same error, or it gives the same names, regions and pieces, with the
same texts of groups. -/
theorem line_endings_agree (recogniser : Recogniser) {text : Text} (plain : ¬['\r', '\n'] <:+: text) :
    (recogniser.template text.withReturns 0 (Text.byteSize text.withReturns)).map Template.content =
        (recogniser.template text 0 (Text.byteSize text)).map Template.content ∧
      (recogniser.templates text.withReturns 0 (Text.byteSize text.withReturns)).map TemplateSet.contents =
        (recogniser.templates text 0 (Text.byteSize text)).map TemplateSet.contents := by
  have texts := Pairing.texts_withReturns recogniser plain
  have template := (texts.template_alike rfl).map_eq_bimap fun _ _ alike => Pairing.content_withReturns alike
  have templates := texts.templates_alike.map_eq_bimap fun _ _ alike =>
    alike.map_eq fun _ _ same => Pairing.content_withReturns same
  have still {First Second : Type} (view : First → Second) :=
    bimap_eq_map (Stop.indent_zero fun _ => false) view
  exact ⟨template.trans (still _ _), templates.trans (still _ _)⟩

/-- A text with a replacement at the end of a line. -/
def anchoredReplacement : Text :=
  "#region TEMPLATE REPLACE(`(b)$`, $x)\n  ab\n#endregion\n".toList

theorem line_endings_agree_anchored :
    ¬['\r', '\n'] <:+: anchoredReplacement ∧
      (Template.load .standard anchoredReplacement.withReturns 0 56).map Template.content =
        .ok ⟨⟨#[.opening 0 0 (.replace ['x'] ⟨false⟩ #[⟨1, 0⟩]), .closing 2 1], 1,
            [⟨['a'], some 2, false, false⟩, ⟨['b'], none, true, true⟩]⟩,
          [none, some [some (some ['b']), some (some ['b'])]]⟩ ∧
      (TemplateSet.load .standard anchoredReplacement.withReturns 0 56).map TemplateSet.contents =
        .error (.refused (.structural ⟨0, 17⟩ (.expectedDefine .replace))) := by
  have size : Text.byteSize anchoredReplacement = 53 ∧
      Text.byteSize anchoredReplacement.withReturns = 56 := by decide +kernel
  have plain : ¬['\r', '\n'] <:+: anchoredReplacement := by decide +kernel
  obtain ⟨template, templates⟩ := line_endings_agree Markers.standard.recogniser plain
  rw [size.1, size.2] at template templates
  refine ⟨plain, template.trans ?_, templates.trans ?_⟩
  · decide +kernel
  · decide +kernel

end Stencil
