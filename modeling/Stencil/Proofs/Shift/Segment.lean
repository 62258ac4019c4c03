/-
This file cuts two lines, of which the second has the matches of the first some columns later.
-/
import Mathlib.Data.List.Forall2
import Mathlib.Data.Nat.Init
import Stencil.Proofs.Matches
import Stencil.Proofs.Segment

namespace Stencil

namespace Pattern

/-- From each position of a text on, a pattern finds the match that it finds in another text some columns
later. -/
def Floats (pattern : Pattern) (columns start : Nat) (text other : Array Char) : Prop :=
  ∀ position, start ≤ position → position ≤ text.size →
    (pattern.find? other (position + columns)).map (fun found => (found.start, found.stop)) =
      (pattern.find? text position).map fun found => (found.start + columns, found.stop + columns)

instance {pattern : Pattern} {columns start : Nat} {text other : Array Char} :
    Decidable (pattern.Floats columns start text other) :=
  inferInstanceAs (Decidable (∀ position, start ≤ position → position ≤ text.size → _))

/-- From the indentation of a line on, the pattern finds the same if spaces are put before the line. This is
asked of each line that is not blank. -/
def FloatsOver (pattern : Pattern) (columns : Nat) (lines : List Line) : Prop :=
  ∀ line ∈ lines, line.kind ≠ .empty → pattern.Floats columns line.indentation line.text.toArray
    (List.replicate columns ' ' ++ line.text).toArray

instance {pattern : Pattern} {columns : Nat} {lines : List Line} :
    Decidable (pattern.FloatsOver columns lines) :=
  inferInstanceAs (Decidable (∀ line ∈ lines, line.kind ≠ .empty → _))

/-- A match in the second text is the one in the first some columns later, perhaps with other groups. -/
structure Match.Later (columns : Nat) (found other : Match) : Prop where
  start : other.start = found.start + columns
  stop : other.stop = found.stop + columns

variable {pattern : Pattern} {columns start position : Nat} {text other : Array Char}

theorem Floats.find?_none (floats : pattern.Floats columns start text other) (behind : start ≤ position)
    (inside : position ≤ text.size) (absent : pattern.find? text position = none) :
    pattern.find? other (position + columns) = none := by
  have same := floats position behind inside
  rwa [absent, Option.map_none, Option.map_eq_none_iff] at same

theorem Floats.find?_some (floats : pattern.Floats columns start text other) (behind : start ≤ position)
    (inside : position ≤ text.size) {found : Match} (success : pattern.find? text position = some found) :
    ∃ later, pattern.find? other (position + columns) = some later ∧ found.Later columns later := by
  have same := floats position behind inside
  rw [success, Option.map_some] at same
  obtain ⟨later, there, bounds⟩ := Option.map_eq_some_iff.1 same
  obtain ⟨start, stop⟩ := Prod.mk.inj bounds
  exact ⟨later, there, start, stop⟩

theorem findNonempty?_none (absent : pattern.find? text position = none) :
    pattern.findNonempty? text position = none := by
  rw [findNonempty?]
  split
  · rfl
  · next found => rw [absent] at found; cases found

theorem findNonempty?_some {found : Match} (success : pattern.find? text position = some found) :
    pattern.findNonempty? text position =
      if found.start < found.stop then some found
      else if found.stop < text.size then pattern.findNonempty? text (found.stop + 1) else none := by
  rw [findNonempty?]
  split
  · next absent => rw [success] at absent; cases absent
  · next other same =>
      rw [success] at same
      cases same
      rfl

/-- The first match that is not empty is found some columns later. -/
theorem Floats.findNonempty?_later (floats : pattern.Floats columns start text other)
    (size : other.size = text.size + columns) (behind : start ≤ position) (inside : position ≤ text.size) :
    Option.Rel (Match.Later columns) (pattern.findNonempty? text position)
      (pattern.findNonempty? other (position + columns)) := by
  fun_induction findNonempty? pattern text position with
  | case1 position absent =>
      rw [findNonempty?_none (floats.find?_none behind inside absent)]
      exact .none
  | case2 position found matched nonempty =>
      obtain ⟨later, there, bounds⟩ := floats.find?_some behind inside matched
      rw [findNonempty?_some there, if_pos (by rw [bounds.start, bounds.stop]; omega)]
      exact .some bounds
  | case3 position found matched empty more ih =>
      obtain ⟨later, there, bounds⟩ := floats.find?_some behind inside matched
      have ordered := find?_bounds matched
      have next : later.stop + 1 = found.stop + 1 + columns := by
        rw [bounds.stop]
        omega
      rw [findNonempty?_some there, if_neg (by rw [bounds.start, bounds.stop]; omega),
        if_pos (by rw [bounds.stop, size]; omega), next]
      exact ih (by omega) more
  | case4 position found matched empty outside =>
      obtain ⟨later, there, bounds⟩ := floats.find?_some behind inside matched
      rw [findNonempty?_some there, if_neg (by rw [bounds.start, bounds.stop]; omega),
        if_neg (by rw [bounds.stop, size]; omega)]
      exact .none

end Pattern

namespace Segment

/-- A segment of the second line is the one of the first some columns later. -/
structure Later (columns : Nat) (segment other : Segment) : Prop where
  boundary? : other.boundary? = segment.boundary?
  start : other.start = segment.start + columns
  stop : other.stop = segment.stop + columns

variable {columns start cursor : Nat} {text other : Array Char} {replacements : List Replacement}

/-- A match of a replacement is found some columns later for the same replacement. -/
structure LaterNext (columns : Nat) (next other : Nat × Pattern.Match) : Prop where
  boundary : other.1 = next.1
  found : next.2.Later columns other.2

/-- Of two matches the same one is earlier. -/
theorem LaterNext.earlier {first second next following : Nat × Pattern.Match}
    (later : LaterNext columns first next) (others : LaterNext columns second following) :
    LaterNext columns (earlier first second) (Segment.earlier next following) := by
  rw [Segment.earlier, Segment.earlier]
  by_cases sooner : second.2.start < first.2.start
  · rw [if_pos sooner, if_pos (by rw [others.found.start, later.found.start]; omega)]
    exact others
  · rw [if_neg sooner, if_neg (by rw [others.found.start, later.found.start]; omega)]
    exact later

/-- The earliest match of some replacements is found some columns later. -/
theorem next?_later
    (floats : ∀ replacement ∈ replacements, replacement.pattern.Floats columns start text other)
    (size : other.size = text.size + columns) (behind : start ≤ cursor) (inside : cursor ≤ text.size) :
    Option.Rel (LaterNext columns) (next? text cursor replacements)
      (next? other (cursor + columns) replacements) := by
  induction replacements with
  | nil => exact .none
  | cons replacement rest ih =>
      obtain ⟨here, later⟩ := List.forall_mem_cons.1 floats
      have first := here.findNonempty?_later size behind inside
      have second := ih later
      rw [next?, next?]
      cases found : replacement.pattern.findNonempty? text cursor with
      | none =>
          rw [found] at first
          rw [eq_none_of_rel_none first]
          exact second
      | some matched =>
          rw [found] at first
          obtain ⟨shifted, there, bounds⟩ := exists_of_rel_some first
          have same : LaterNext columns (replacement.boundary, matched) (replacement.boundary, shifted) :=
            ⟨rfl, bounds⟩
          rw [there]
          cases next : next? text cursor rest with
          | none =>
              rw [next] at second
              rw [eq_none_of_rel_none second]
              exact .some same
          | some others =>
              rw [next] at second
              obtain ⟨following, behind, later⟩ := exists_of_rel_some second
              rw [behind]
              exact .some (same.earlier later)

/-- A line is cut some columns later. -/
theorem ofLine_later
    (floats : ∀ replacement ∈ replacements, replacement.pattern.Floats columns start text other)
    (size : other.size = text.size + columns) (behind : start ≤ cursor) (inside : cursor ≤ text.size) :
    List.Forall₂ (Later columns) (ofLine replacements text cursor)
      (ofLine replacements other (cursor + columns)) := by
  have next (cursor : Nat) (behind : start ≤ cursor) (inside : cursor ≤ text.size) :=
    next?_later floats size behind inside
  fun_induction ofLine replacements text cursor with
  | case1 cursor absent more =>
      have later := next cursor behind inside
      rw [absent] at later
      rw [ofLine_none (eq_none_of_rel_none later), if_pos (by omega), size]
      exact .cons ⟨rfl, rfl, rfl⟩ .nil
  | case2 cursor absent noMore =>
      have later := next cursor behind inside
      rw [absent] at later
      rw [ofLine_none (eq_none_of_rel_none later), if_neg (by omega)]
      exact .nil
  | case3 cursor boundary found success rest gap ih =>
      have later := next cursor behind inside
      rw [success] at later
      obtain ⟨⟨_, shifted⟩, there, rfl, bounds⟩ := exists_of_rel_some later
      have starts : shifted.start = found.start + columns := bounds.start
      have stops : shifted.stop = found.stop + columns := bounds.stop
      have ordered := next?_bounds success
      rw [ofLine_some there, if_pos (by omega), starts, stops]
      exact .cons ⟨rfl, rfl, rfl⟩ (.cons ⟨rfl, starts, stops⟩ (ih (by omega) ordered.2.2))
  | case4 cursor boundary found success rest noGap ih =>
      have later := next cursor behind inside
      rw [success] at later
      obtain ⟨⟨_, shifted⟩, there, rfl, bounds⟩ := exists_of_rel_some later
      have starts : shifted.start = found.start + columns := bounds.start
      have stops : shifted.stop = found.stop + columns := bounds.stop
      have ordered := next?_bounds success
      rw [ofLine_some there, if_neg (by omega), stops]
      exact .cons ⟨rfl, starts, stops⟩ (ih (by omega) ordered.2.2)

end Segment

end Stencil
