/-
This file shows that the segments of a line tile it, and what their pieces have in common.
-/
import Stencil.Proofs.Outline.Placed
import Stencil.Proofs.Text.Slice

namespace Stencil

namespace Segment

theorem ofLine_none {replacements : List Replacement} {text : Array Char} {cursor : Nat}
    (absent : next? text cursor replacements = none) :
    ofLine replacements text cursor = if cursor < text.size then [.plain cursor text.size] else [] := by
  rw [ofLine]
  split
  · rfl
  · next found => rw [absent] at found; cases found

theorem ofLine_some {replacements : List Replacement} {text : Array Char} {cursor boundary : Nat}
    {found : Pattern.Match} (success : next? text cursor replacements = some (boundary, found)) :
    ofLine replacements text cursor =
      (if cursor < found.start then [.plain cursor found.start] else []) ++
        .site boundary found :: ofLine replacements text found.stop := by
  rw [ofLine]
  split
  · next absent => rw [success] at absent; cases absent
  · next other match' same =>
      rw [success] at same
      cases same
      split <;> rfl

/-- Some segments tile an interval of positions: each of them starts where the one before stops, and
none is empty. -/
def Tile (start stop : Nat) : List Segment → Prop
  | [] => start = stop
  | segment :: rest => segment.start = start ∧ start < segment.stop ∧ Tile segment.stop stop rest

/-- The segments of a line tile it from the cursor on. -/
theorem ofLine_tile (replacements : List Replacement) (text : Array Char) (cursor : Nat)
    (inside : cursor ≤ text.size) : Tile cursor text.size (ofLine replacements text cursor) := by
  fun_induction ofLine replacements text cursor with
  | case1 cursor absent more => exact ⟨rfl, more, rfl⟩
  | case2 cursor absent noMore => exact Nat.le_antisymm inside (Nat.le_of_not_lt noMore)
  | case3 cursor boundary found success rest gap ih =>
      have bounds := next?_bounds success
      exact ⟨rfl, gap, rfl, bounds.2.1, ih bounds.2.2⟩
  | case4 cursor boundary found success rest noGap ih =>
      have bounds := next?_bounds success
      obtain rfl : cursor = found.start := Nat.le_antisymm bounds.1 (Nat.le_of_not_lt noGap)
      exact ⟨rfl, bounds.2.1, ih bounds.2.2⟩

/-- The characters of a segment. -/
def characters (text : Text) (segment : Segment) : Text := (text.take segment.stop).drop segment.start

theorem Tile.le {start stop : Nat} {segments : List Segment} (tile : Tile start stop segments) :
    start ≤ stop := by
  induction segments generalizing start with
  | nil => exact Nat.le_of_eq tile
  | cons segment rest ih => exact Nat.le_trans (Nat.le_of_lt tile.2.1) (ih tile.2.2)

/-- Segments that tile an interval have the characters of the interval. -/
theorem Tile.flatMap_characters {start stop : Nat} {segments : List Segment}
    (tile : Tile start stop segments) (text : Text) :
    segments.flatMap (characters text) = (text.take stop).drop start := by
  induction segments generalizing start with
  | nil =>
      obtain rfl := tile
      simp
  | cons segment rest ih =>
      obtain ⟨rfl, nonempty, others⟩ := tile
      have ordered := others.le
      have front : (text.take segment.stop).drop segment.start =
          ((text.take stop).drop segment.start).take (segment.stop - segment.start) := by
        rw [← List.drop_take, List.take_take, Nat.min_eq_left ordered]
      have back : (text.take stop).drop segment.stop =
          ((text.take stop).drop segment.start).drop (segment.stop - segment.start) := by
        rw [List.drop_drop]
        congr 1
        omega
      rw [List.flatMap_cons, ih others, characters, front, back, List.take_append_drop]

/-- Only a line that is used up has no segments. -/
theorem Tile.ne_nil {start stop : Nat} {segments : List Segment} (tile : Tile start stop segments)
    (more : start < stop) : segments ≠ [] := by
  rintro rfl
  exact absurd tile (Nat.ne_of_lt more)

/-- A site belongs to one of the replacements. -/
theorem next?_boundary {text : Array Char} {cursor : Nat} {replacements : List Replacement}
    {boundary : Nat} {found : Pattern.Match}
    (success : next? text cursor replacements = some (boundary, found)) :
    ∃ replacement ∈ replacements, replacement.boundary = boundary := by
  obtain ⟨replacement, member, same, _⟩ := next?_found success
  exact ⟨replacement, member, same⟩

/-- The sites of a line belong to the replacements that cut it. -/
theorem ofLine_boundary {replacements : List Replacement} {text : Array Char} {cursor : Nat}
    {segment : Segment} (member : segment ∈ ofLine replacements text cursor) {boundary : Nat}
    (owner : segment.boundary? = some boundary) :
    ∃ replacement ∈ replacements, replacement.boundary = boundary := by
  fun_induction ofLine replacements text cursor with
  | case1 cursor absent more =>
      rw [List.mem_singleton.1 member] at owner
      cases owner
  | case2 => cases member
  | case3 cursor other found success rest gap ih =>
      rcases List.mem_cons.1 member with rfl | behind
      · cases owner
      · rcases List.mem_cons.1 behind with rfl | later
        · cases owner
          exact next?_boundary success
        · exact ih later
  | case4 cursor other found success rest noGap ih =>
      rcases List.mem_cons.1 member with rfl | later
      · cases owner
        exact next?_boundary success
      · exact ih later

/-- The segment without the boundary of its replacement. -/
def unowned : Segment → Segment
  | .plain start stop => .plain start stop
  | .site _ found => .site 0 found

theorem piece_unowned (line : Line) (segment : Segment) :
    segment.unowned.piece line = segment.piece line := by
  cases segment <;> rfl

theorem next?_unowned (text : Array Char) (cursor : Nat) (replacements : List Replacement) :
    next? text cursor (replacements.map fun replacement => ⟨replacement.pattern, 0⟩) =
      (next? text cursor replacements).map fun next => (0, next.2) := by
  induction replacements with
  | nil => rfl
  | cons replacement rest ih =>
      rw [List.map_cons, next?, next?, ih]
      cases replacement.pattern.findNonempty? text cursor with
      | none => rfl
      | some found =>
          cases next? text cursor rest with
          | none => rfl
          | some later =>
              simp only [Option.map_some, earlier]
              split <;> rfl

/-- Where a line is cut depends on the patterns only. -/
theorem ofLine_unowned (replacements : List Replacement) (text : Array Char) (cursor : Nat) :
    ofLine (replacements.map fun replacement => ⟨replacement.pattern, 0⟩) text cursor =
      (ofLine replacements text cursor).map unowned := by
  have unnamed (cursor : Nat) := next?_unowned text cursor replacements
  fun_induction ofLine replacements text cursor with
  | case1 cursor absent more =>
      rw [ofLine_none (by rw [unnamed, absent]; rfl), if_pos more]
      rfl
  | case2 cursor absent noMore =>
      rw [ofLine_none (by rw [unnamed, absent]; rfl), if_neg noMore]
      rfl
  | case3 cursor boundary found success rest gap ih =>
      rw [ofLine_some (by rw [unnamed, success]; rfl), if_pos gap, ih]
      rfl
  | case4 cursor boundary found success rest noGap ih =>
      rw [ofLine_some (by rw [unnamed, success]; rfl), if_neg noGap, ih]
      rfl

/-- A piece is a site exactly if its segment belongs to a replacement. -/
theorem piece_isSite (line : Line) (segment : Segment) :
    (segment.piece line).isSite = segment.boundary?.isSome := by
  cases segment <;> rfl

end Segment

end Stencil
