/-
This file shows how the pieces of a loaded template stand in its range: in order, each in one line, and joined
inside a line.
-/
import Stencil.Proofs.Line.Joints
import Stencil.Proofs.Load.Basic

namespace Stencil

/-- A piece is proper in a range. Only an empty one stands for a blank line, which is a line break and no
site. The whole match of a site is its span. -/
structure Piece.Proper (source : Text) (start stop : Nat) (piece : Piece) : Prop where
  inside : start ≤ piece.start ∧ piece.start ≤ piece.stop ∧ piece.stop ≤ stop
  text : Text.slice? source piece.start piece.stop = some piece.text
  noFeed : '\n' ∉ piece.text
  noTab : '\t' ∉ piece.text
  blank : piece.text = [] →
    piece.indentation? = none ∧ piece.startsNewLine = true ∧ piece.groups? = none
  site : piece.isSite = true →
    piece.text ≠ [] ∧ piece.groups?.bind List.head? = some (some piece.span)

/-- The piece comes from a line: among some lines it stands in this one only. -/
structure Piece.ComesFrom (lines : List Line) (line : Line) (piece : Piece) : Prop where
  among : line ∈ lines
  inside : line.start ≤ piece.start ∧ piece.stop ≤ line.stop
  only : ∀ other ∈ lines, other.start ≤ piece.start → piece.stop ≤ other.stop → other = line

/-- The first piece stands before the second. -/
def Piece.Before (first second : Piece) : Prop :=
  first.start < second.start ∧ first.stop ≤ second.start

instance : Trans Piece.Before Piece.Before Piece.Before where
  trans first second := ⟨Nat.lt_trans first.1 second.1,
    Nat.le_trans first.2 (Nat.le_of_lt second.1)⟩

/-- The second piece follows the first. In the same line it goes on where the first stops, and one of them is
a site. Otherwise a line feed lies between them, and the second starts a line or is empty. -/
structure Piece.Follows (source : Text) (first second : Piece) : Prop where
  before : first.Before second
  joined : first.startsNewLine = false →
    first.stop = second.start ∧ second.indentation? = none ∧
      (first.isSite = true ∨ second.isSite = true)
  broken : first.startsNewLine = true →
    (∃ gap, Text.slice? source first.stop second.start = some gap ∧ '\n' ∈ gap) ∧
      (second.text = [] ∨ second.indentation?.isSome = true)

theorem Piece.Joins.follows {source : Text} {first second : Piece} (joins : first.Joins second) :
    first.Follows source second where
  before := ⟨joins.meets ▸ joins.more, Nat.le_of_eq joins.meets.symm⟩
  joined _ := ⟨joins.meets.symm, joins.bare, joins.site⟩
  broken starts := by
    rw [joins.goesOn] at starts
    cases starts

namespace Line

/-- A line that precedes another ends before that one starts. -/
theorem Precedes.stop_lt {source : Text} {first second : Line} (precedes : first.Precedes source second) :
    first.stop < second.start := by
  obtain ⟨gap, feed, _, start⟩ := precedes
  have := Text.byteSize_pos (List.ne_nil_of_mem feed)
  omega

/-- Two lines that stand one behind the other are the same or apart. -/
theorem eq_or_apart {source : Text} {lines : List Line} (ordered : lines.Pairwise (Precedes source))
    {first second : Line} (among : first ∈ lines) (amongToo : second ∈ lines) :
    first = second ∨ first.stop < second.start ∨ second.stop < first.start := by
  have apart : ∀ line ∈ lines, ∀ other ∈ lines,
      line = other ∨ line.stop < other.start ∨ other.stop < line.start := by
    refine fun line member other memberToo => List.Pairwise.forall_of_forall_of_flip
      (R := fun line other : Line =>
        line = other ∨ line.stop < other.start ∨ other.stop < line.start)
      (fun _ _ => .inl rfl) (ordered.imp ?_) (ordered.imp ?_) member memberToo
    · exact fun precedes => .inr (.inl precedes.stop_lt)
    · exact fun precedes => .inr (.inr precedes.stop_lt)
  exact apart first among second amongToo

/-- Among lines that stand one behind the other, a piece comes from the one that holds it. -/
theorem Holds.comesFrom {source : Text} {lines : List Line} (ordered : lines.Pairwise (Precedes source))
    {line : Line} (among : line ∈ lines) {piece : Piece} (holds : line.Holds piece) :
    piece.ComesFrom lines line where
  among := among
  inside := holds.within
  only other member starts stops := by
    have here := holds.within
    have grows : piece.start ≤ piece.stop := Nat.le_add_right _ _
    rcases eq_or_apart ordered member among with same | before | behind
    · exact same
    · omega
    · omega

end Line

namespace Placed

variable {placed : Placed} {base : Nat} {piece : Piece}

/-- A line holds the pieces that it adds. They are empty exactly if the line is blank. -/
theorem pieces_held (formed : placed.line.Formed) (member : piece ∈ placed.pieces base) :
    placed.line.Holds piece ∧ (piece.text = [] ↔ placed.line.kind = .empty) := by
  unfold pieces at member
  split at member
  · next empty =>
      split at member
      · cases member
      · rw [List.mem_singleton.1 member]
        exact ⟨⟨[], placed.line.text, rfl, rfl⟩, iff_of_true rfl empty⟩
  · next notEmpty =>
      split at member
      · obtain ⟨holds, nonempty⟩ := Line.pieces_held formed notEmpty member
        exact ⟨holds, iff_of_false nonempty notEmpty⟩
      · cases member

/-- The pieces that a line of a range adds are proper in the range. -/
theorem pieces_proper {source : Text} {start stop : Nat} (formed : placed.line.Formed)
    (lies : Text.LiesAt source placed.line.start placed.line.text)
    (within : start ≤ placed.line.start ∧ placed.line.stop ≤ stop ∧ '\t' ∉ placed.line.text)
    (member : piece ∈ placed.pieces base) : piece.Proper source start stop := by
  obtain ⟨holds, empty_iff⟩ := pieces_held formed member
  have place := holds.within
  obtain ⟨before, after, same, _⟩ := holds
  have clean {character : Char} (absent : character ∉ placed.line.text) : character ∉ piece.text := by
    intro inside
    rw [same] at absent
    exact absent (List.mem_append_left _ (List.mem_append_right _ inside))
  refine
    { inside := ⟨Nat.le_trans within.1 place.1, Nat.le_add_right _ _, Nat.le_trans place.2 within.2.1⟩
      text := (placed.pieces_lie formed lies member).slice?
      noFeed := clean formed.noFeed
      noTab := clean within.2.2
      blank := fun none => ?blank
      site := fun isSite => ?site }
  case blank =>
    rw [pieces, if_pos (empty_iff.1 none)] at member
    split at member
    · cases member
    · rw [List.mem_singleton.1 member]
      exact ⟨rfl, rfl, rfl⟩
  case site =>
    unfold pieces at member
    split at member
    · split at member
      · cases member
      · rw [List.mem_singleton.1 member] at isSite
        cases isSite
    · next notEmpty =>
        split at member
        · exact ⟨(Line.pieces_held formed notEmpty member).2,
            Line.pieces_groups formed notEmpty member isSite⟩
        · cases member

/-- The pieces that a line adds follow one another. -/
theorem pieces_isChain (source : Text) (placed : Placed) (base : Nat) :
    (placed.pieces base).IsChain (Piece.Follows source) := by
  unfold pieces
  split
  · split
    · exact .nil
    · exact .singleton _
  · split
    · exact (placed.line.pieces_joins _ base _).imp fun _ _ joins => joins.follows
    · exact .nil

/-- The first piece that a line adds starts the line or is empty. -/
theorem pieces_head? (placed : Placed) (base : Nat) :
    ∀ piece ∈ (placed.pieces base).head?, piece.text = [] ∨ piece.indentation?.isSome = true := by
  intro piece first
  unfold pieces at first
  split at first
  · split at first
    · cases first
    · cases first
      exact .inl rfl
  · split at first
    · exact .inr (placed.line.pieces_head? _ base _ piece first)
    · cases first

/-- The last piece that a line adds starts a new line, unless the text ends behind it. -/
theorem pieces_getLast? (goesOn : placed.isLast = false) :
    ∀ piece ∈ (placed.pieces base).getLast?, piece.startsNewLine = true := by
  intro piece last
  unfold pieces at last
  rw [goesOn] at last
  split at last
  · cases last
    rfl
  · split at last
    · exact placed.line.pieces_getLast? _ base piece last
    · cases last

/-- The pieces of a line follow those of a line before it, which is not the last of the text. -/
theorem pieces_follow {source : Text} {first second : Placed} (formed : first.line.Formed)
    (formedLater : second.line.Formed) (precedes : first.line.Precedes source second.line)
    (goesOn : first.isLast = false) :
    ∀ piece ∈ (first.pieces base).getLast?, ∀ later ∈ (second.pieces base).head?,
      piece.Follows source later := by
  intro piece last later head
  have starts := pieces_getLast? goesOn piece last
  obtain ⟨holds, _⟩ := pieces_held formed (List.mem_of_getLast? last)
  obtain ⟨holdsLater, _⟩ := pieces_held formedLater (List.mem_of_head? head)
  have place := holds.within
  have placeLater := holdsLater.within
  have apart := precedes.stop_lt
  have grows : piece.start ≤ piece.stop := Nat.le_add_right _ _
  refine ⟨⟨by omega, by omega⟩, fun goesOn => ?_, fun _ => ?_⟩
  · rw [starts] at goesOn
    cases goesOn
  · exact ⟨precedes.gap holds holdsLater, second.pieces_head? base later head⟩

end Placed

/-- What each element adds is a chain if its parts are and each part goes on from those before it. -/
theorem isChain_flatMap {Element Value : Type} {related : Value → Value → Prop}
    {parts : Element → List Value} {elements : List Element}
    (inside : ∀ element ∈ elements, (parts element).IsChain related)
    (between : elements.Pairwise fun first second =>
      ∀ last ∈ (parts first).getLast?, ∀ head ∈ (parts second).head?, related last head) :
    (elements.flatMap parts).IsChain related := by
  induction elements with
  | nil => exact .nil
  | cons element rest ih =>
      obtain ⟨insideFirst, insideRest⟩ := List.forall_mem_cons.1 inside
      obtain ⟨here, later⟩ := List.pairwise_cons.1 between
      rw [List.flatMap_cons]
      refine insideFirst.append (ih insideRest later) fun last isLast head isHead => ?_
      obtain ⟨owner, among, owned⟩ : ∃ owner ∈ rest, head ∈ (parts owner).head? := by
        rw [List.head?_flatMap] at isHead
        exact List.exists_of_findSome?_eq_some isHead
      exact here owner among last isLast head owned

/-- The pieces of every template that a range gives are proper, and each comes from one line of the range,
which is blank exactly if the piece is empty. They stand in order and follow one another. -/
theorem pieces_follow_lines {recogniser : Recogniser} {source : Text} {start stop : Nat}
    {template : Template} (gives : recogniser.Gives source start stop template) :
    ∃ lines, recogniser.lines source start stop = .ok lines ∧ template.source = source ∧
      (∀ piece ∈ template.pieces, piece.Proper source start stop ∧
        ∃ line, piece.ComesFrom lines line ∧ (piece.text = [] ↔ line.kind = .empty)) ∧
      template.pieces.toList.Pairwise Piece.Before ∧
      template.pieces.toList.IsChain (Piece.Follows source) := by
  obtain ⟨lines, placed, base, classified, sublist, isLast, made⟩ := gives.made
  have ordered := Recogniser.lines_precedes classified
  have facts {other : Placed} (member : other ∈ placed) :=
    Recogniser.lines_formed classified other.line (sublist.mem (List.mem_map_of_mem member))
  have chain : template.pieces.toList.IsChain (Piece.Follows source) := by
    rw [made.pieces]
    refine isChain_flatMap (fun other _ => other.pieces_isChain source base) ?_
    have precedes := List.pairwise_map.1 (ordered.sublist sublist)
    refine (precedes.and isLast).imp_of_mem fun {first second} member later both => ?_
    exact Placed.pieces_follow (facts member).1 (facts later).1 both.1 both.2
  have before := (chain.imp fun _ _ follows => follows.before).pairwise
  refine ⟨lines, classified, made.source, fun piece member => ?_, before, chain⟩
  rw [← Array.mem_toList_iff, made.pieces] at member
  obtain ⟨other, among, inside⟩ := List.mem_flatMap.1 member
  obtain ⟨formed, lies⟩ := facts among
  have amongLines := sublist.mem (List.mem_map_of_mem (f := Placed.line) among)
  obtain ⟨holds, empty_iff⟩ := Placed.pieces_held formed inside
  exact ⟨Placed.pieces_proper formed lies (Recogniser.lines_within classified amongLines) inside,
    other.line, holds.comesFrom ordered amongLines, empty_iff⟩

/-- A text with adjacent sites, a blank line and a last line without a line feed. -/
def adjacentSites : Text :=
  "#region TEMPLATE REPLACE(`a`, $x)\n  baab\n \n  a\n#endregion\nend".toList

theorem pieces_follow_lines_adjacent :
    ∃ template, Template.load .standard adjacentSites 0 61 = .ok template ∧
      template.pieces.toList.map (fun piece => (piece.start, piece.stop)) =
        [(36, 37), (37, 38), (38, 39), (39, 40), (41, 41), (45, 46), (58, 61)] ∧
      ∃ lines, Line.ofRange .standard adjacentSites 0 61 = .ok lines ∧
        (∀ piece ∈ template.pieces, piece.Proper adjacentSites 0 61 ∧
          ∃ line, piece.ComesFrom lines line ∧ (piece.text = [] ↔ line.kind = .empty)) ∧
        template.pieces.toList.IsChain (Piece.Follows adjacentSites) := by
  have spans : (Template.load .standard adjacentSites 0 61).toOption.map
      (fun template => template.pieces.toList.map fun piece => (piece.start, piece.stop)) =
        some [(36, 37), (37, 38), (38, 39), (39, 40), (41, 41), (45, 46), (58, 61)] := by
    decide +kernel
  obtain ⟨template, loaded, same⟩ := exists_ok spans
  obtain ⟨lines, classified, _, proper, _, chain⟩ :=
    @pieces_follow_lines Markers.standard.recogniser adjacentSites 0 61 template (.inl loaded)
  exact ⟨template, loaded, same, lines, classified, proper, chain⟩

end Stencil
