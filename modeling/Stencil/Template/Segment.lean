/-
This file cuts a line at the matches of the active patterns.
-/
import Stencil.Line.Basic
import Stencil.Pattern.Basic
import Stencil.Template.Basic

namespace Stencil

/-- A replacement whose region is open, with the index of its opening boundary. -/
structure Replacement where
  pattern : Pattern
  boundary : Nat

/-- A segment of a line is plain text or a match of the replacement with a boundary. -/
inductive Segment where
  | plain (start stop : Nat)
  | site (boundary : Nat) (found : Pattern.Match)
  deriving Repr, DecidableEq

namespace Segment

/-- The earlier of two matches. Of two that start together, the first is taken. -/
def earlier (first second : Nat × Pattern.Match) : Nat × Pattern.Match :=
  if second.2.start < first.2.start then second else first

/-- The earliest match of some replacements, from a position on. The outer replacement comes first
and is taken among those that start together. -/
def next? (text : Array Char) (cursor : Nat) : List Replacement → Option (Nat × Pattern.Match)
  | [] => none
  | replacement :: rest =>
      match replacement.pattern.findNonempty? text cursor, next? text cursor rest with
      | none, later? => later?
      | some found, none => some (replacement.boundary, found)
      | some found, some later => some (earlier (replacement.boundary, found) later)

/-- The next match is a match of one of the replacements. -/
theorem next?_found {text : Array Char} {cursor : Nat} {replacements : List Replacement} {boundary : Nat}
    {found : Pattern.Match} (success : next? text cursor replacements = some (boundary, found)) :
    ∃ replacement ∈ replacements, replacement.boundary = boundary ∧
      replacement.pattern.findNonempty? text cursor = some found := by
  induction replacements generalizing boundary found with
  | nil => cases success
  | cons replacement rest ih =>
      have behind {boundary : Nat} {found : Pattern.Match} (later : next? text cursor rest = some (boundary, found)) :
          ∃ other ∈ replacement :: rest, other.boundary = boundary ∧
            other.pattern.findNonempty? text cursor = some found := by
        obtain ⟨other, member, facts⟩ := ih later
        exact ⟨other, .tail _ member, facts⟩
      unfold next? at success
      split at success
      · exact behind success
      · next matched _ =>
          cases success
          exact ⟨replacement, .head _, rfl, matched⟩
      · next matched later =>
          unfold earlier at success
          split at success
          · cases success
            exact behind later
          · cases success
            exact ⟨replacement, .head _, rfl, matched⟩

theorem next?_bounds {text : Array Char} {cursor : Nat} {replacements : List Replacement}
    {boundary : Nat} {found : Pattern.Match}
    (success : next? text cursor replacements = some (boundary, found)) :
    cursor ≤ found.start ∧ found.start < found.stop ∧ found.stop ≤ text.size := by
  obtain ⟨_, _, _, matched⟩ := next?_found success
  exact Pattern.findNonempty?_bounds matched

/-- The segments of a line from a position on. Plain text lies between the matches, each of which
is searched for behind the match before. -/
def ofLine (replacements : List Replacement) (text : Array Char) (cursor : Nat) : List Segment :=
  match _success : next? text cursor replacements with
  | none => if cursor < text.size then [.plain cursor text.size] else []
  | some (boundary, found) =>
      let rest := .site boundary found :: ofLine replacements text found.stop
      if cursor < found.start then .plain cursor found.start :: rest else rest
termination_by text.size - cursor
decreasing_by
  have := next?_bounds (by assumption)
  omega

/-- The position after a segment. -/
def stop : Segment → Nat
  | .plain _ stop => stop
  | .site _ found => found.stop

/-- The position where a segment starts. -/
def start : Segment → Nat
  | .plain start _ => start
  | .site _ found => found.start

/-- The byte span in the source of a span of positions in a line. -/
def lineSpan (line : Line) (start stop : Nat) : Span :=
  ⟨line.start + Text.byteSize (line.text.take start), line.start + Text.byteSize (line.text.take stop)⟩

/-- The groups of a segment, with the whole match first. -/
def groups? (line : Line) : Segment → Option (List (Option Span))
  | .plain _ _ => none
  | .site _ found =>
      some (some (lineSpan line found.start found.stop) ::
        found.groups.map fun group => group.map fun span => lineSpan line span.1 span.2)

/-- The boundary of the replacement that a segment is a site of. -/
def boundary? : Segment → Option Nat
  | .plain _ _ => none
  | .site boundary _ => some boundary

/-- The piece of a segment. -/
def piece (line : Line) (segment : Segment) : Piece where
  start := (lineSpan line segment.start segment.stop).start
  text := (line.text.take segment.stop).drop segment.start
  groups? := segment.groups? line

end Segment

end Stencil
