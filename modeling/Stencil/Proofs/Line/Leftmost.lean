/-
This file shows that a line is cut at the leftmost matches that have characters. Of the matches that start
together the one of the outermost replacement is taken.
-/
import Stencil.Proofs.Line.Joints
import Stencil.Proofs.Pattern.Search

namespace Stencil

namespace Segment

variable {replacements : List Replacement} {text : Array Char} {cursor boundary : Nat}
  {found : Pattern.Match}

/-- The preferred match of a replacement is the leftmost one with characters from a cursor on: before it no
replacement matches with characters, and where it starts no replacement further out does. -/
structure IsLeftmost (replacements : List Replacement) (text : Array Char) (cursor boundary : Nat)
    (found : Pattern.Match) : Prop where
  behind : cursor ≤ found.start
  nonempty : found.start < found.stop
  first : ∀ replacement ∈ replacements, ∀ position, cursor ≤ position → position < found.start →
    ¬replacement.pattern.MatchesAt text position
  owner : ∃ outer owner inner, replacements = outer ++ owner :: inner ∧ owner.boundary = boundary ∧
    owner.pattern.matchAt? text found.start = some found ∧
      ∀ replacement ∈ outer, ¬replacement.pattern.MatchesAt text found.start

/-- What lies between two matches, if anything does. -/
def gap (start stop : Nat) : List Segment := if start < stop then [.plain start stop] else []

/-- Some segments cut a text from a cursor on at leftmost matches. Between and behind the matches is plain
text, in which no replacement matches with characters. -/
inductive Leftmost (replacements : List Replacement) (text : Array Char) : Nat → List Segment → Prop where
  | rest {cursor : Nat} (none : ∀ replacement ∈ replacements, ∀ position, cursor ≤ position →
      ¬replacement.pattern.MatchesAt text position) :
      Leftmost replacements text cursor (gap cursor text.size)
  | site {cursor boundary : Nat} {found : Pattern.Match} {others : List Segment}
      (leftmost : IsLeftmost replacements text cursor boundary found)
      (behind : Leftmost replacements text found.stop others) :
      Leftmost replacements text cursor (gap cursor found.start ++ .site boundary found :: others)

/-- A match of an inner replacement is leftmost if the outer one has none up to it. -/
theorem IsLeftmost.under (leftmost : IsLeftmost replacements text cursor boundary found)
    {replacement : Replacement} (none : ∀ position, cursor ≤ position → position ≤ found.start →
      ¬replacement.pattern.MatchesAt text position) :
    IsLeftmost (replacement :: replacements) text cursor boundary found where
  behind := leftmost.behind
  nonempty := leftmost.nonempty
  first := List.forall_mem_cons.2
    ⟨fun position behind before => none position behind (Nat.le_of_lt before), leftmost.first⟩
  owner := by
    obtain ⟨outer, owner, inner, rfl, same, preferred, apart⟩ := leftmost.owner
    exact ⟨replacement :: outer, owner, inner, rfl, same, preferred,
      List.forall_mem_cons.2 ⟨none found.start leftmost.behind (Nat.le_refl _), apart⟩⟩

/-- The first match of the outermost replacement is leftmost if no other replacement has an earlier one. -/
theorem isLeftmost_outermost {replacement : Replacement}
    (success : replacement.pattern.findNonempty? text cursor = some found)
    (none : ∀ other ∈ replacements, ∀ position, cursor ≤ position → position < found.start →
      ¬other.pattern.MatchesAt text position) :
    IsLeftmost (replacement :: replacements) text cursor replacement.boundary found where
  behind := (Pattern.findNonempty?_bounds success).1
  nonempty := (Pattern.findNonempty?_bounds success).2.1
  first := List.forall_mem_cons.2 ⟨(Pattern.findNonempty?_least success).2, none⟩
  owner := ⟨[], replacement, replacements, rfl, rfl, (Pattern.findNonempty?_least success).1, nofun⟩

/-- If there is no next match, no replacement matches with characters. -/
theorem not_matchesAt_of_no_next (absent : next? text cursor replacements = none) :
    ∀ replacement ∈ replacements, ∀ position, cursor ≤ position →
      ¬replacement.pattern.MatchesAt text position := by
  induction replacements with
  | nil => exact nofun
  | cons replacement rest ih =>
      unfold next? at absent
      split at absent
      · next none =>
          exact List.forall_mem_cons.2 ⟨fun _ => Pattern.not_matchesAt_of_absent none, ih absent⟩
      · cases absent
      · cases absent

/-- The next match is leftmost. -/
theorem next?_isLeftmost (success : next? text cursor replacements = some (boundary, found)) :
    IsLeftmost replacements text cursor boundary found := by
  induction replacements generalizing boundary found with
  | nil => cases success
  | cons replacement rest ih =>
      unfold next? at success
      split at success
      · next none =>
          exact (ih success).under fun position behind _ => Pattern.not_matchesAt_of_absent none behind
      · next matched none =>
          cases success
          exact isLeftmost_outermost matched fun other member position behind _ =>
            not_matchesAt_of_no_next none other member position behind
      · next first later matched next =>
          unfold earlier at success
          split at success
          · next sooner =>
              cases success
              refine (ih next).under fun position behind upTo => ?_
              exact (Pattern.findNonempty?_least matched).2 position behind (Nat.lt_of_le_of_lt upTo sooner)
          · next noSooner =>
              cases success
              refine isLeftmost_outermost matched fun other member position behind before => ?_
              exact (ih next).first other member position behind
                (Nat.lt_of_lt_of_le before (Nat.le_of_not_lt noSooner))

/-- A line is cut at leftmost matches. -/
theorem ofLine_leftmost (replacements : List Replacement) (text : Array Char) (cursor : Nat) :
    Leftmost replacements text cursor (ofLine replacements text cursor) := by
  fun_induction ofLine replacements text cursor with
  | case1 cursor absent more =>
      have rest := Leftmost.rest (not_matchesAt_of_no_next absent)
      rwa [gap, if_pos more] at rest
  | case2 cursor absent noMore =>
      have rest := Leftmost.rest (not_matchesAt_of_no_next absent)
      rwa [gap, if_neg noMore] at rest
  | case3 cursor boundary found success rest between ih =>
      have site := Leftmost.site (next?_isLeftmost success) ih
      rwa [gap, if_pos between] at site
  | case4 cursor boundary found success rest noGap ih =>
      have site := Leftmost.site (next?_isLeftmost success) ih
      rwa [gap, if_neg noGap] at site

end Segment

namespace Piece

/-- The piece apart from where its line starts and ends. -/
def bare (piece : Piece) : Piece := { piece with indentation? := none, startsNewLine := false }

/-- Some pieces cover an interval of bytes: each starts where the one before stops, and none is empty. -/
def Tile (start stop : Nat) : List Piece → Prop
  | [] => start = stop
  | piece :: rest => piece.start = start ∧ start < piece.stop ∧ Tile piece.stop stop rest

/-- The pieces of segments that tile a line cover the bytes of the line. -/
theorem tile_of_segments (line : Line) {pieces : List Piece} {segments : List Segment} {start : Nat}
    (same : pieces.map bare = segments.map (Segment.piece line))
    (tile : Segment.Tile start line.text.length segments) :
    Tile (line.start + Text.byteSize (line.text.take start)) line.stop pieces := by
  induction segments generalizing pieces start with
  | nil =>
      obtain rfl := List.map_eq_nil_iff.1 same
      obtain rfl := tile
      rw [Tile, List.take_length, Line.stop]
  | cons segment rest ih =>
      obtain ⟨piece, others, rfl, first, later⟩ := List.map_eq_cons_iff.1 same
      obtain ⟨rfl, nonempty, behind⟩ := tile
      have begins : piece.start = line.start + Text.byteSize (line.text.take segment.start) :=
        congrArg Piece.start first
      have stops : piece.stop = line.start + Text.byteSize (line.text.take segment.stop) := by
        rw [← Segment.piece_stop line (Nat.le_of_lt nonempty), ← first]
        rfl
      have text : piece.text = (segment.piece line).text := by
        rw [← first]
        rfl
      have characters := Text.byteSize_pos (Segment.piece_text_ne_nil line nonempty behind.le)
      refine ⟨begins, ?_, stops ▸ ih later behind⟩
      rw [← begins, Piece.stop, text]
      exact Nat.lt_add_of_pos_right characters

end Piece

end Stencil
