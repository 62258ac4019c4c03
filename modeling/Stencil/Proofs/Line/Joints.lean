/-
This file shows how the pieces of a line join: each goes on where the one before stops, and of two neighbours
one is a site. Pieces of different lines have a line feed between them.
-/
import Mathlib.Data.List.Chain
import Stencil.Proofs.Line.Layout
import Stencil.Proofs.Line.Pieces

namespace Stencil

namespace Segment

/-- In a line of some length the second segment goes on where the first stops, and one of them is a site. -/
structure Joins (first : Segment) (size : Nat) (second : Segment) : Prop where
  nonempty : first.start < first.stop
  inside : first.stop ≤ size
  meets : second.start = first.stop
  site : first.boundary?.isSome = true ∨ second.boundary?.isSome = true

theorem Tile.head? {start stop : Nat} {segments : List Segment} (tile : Tile start stop segments) :
    ∀ segment ∈ segments.head?, segment.start = start := by
  intro segment first
  cases segments with
  | nil => cases first
  | cons head rest =>
      cases first
      exact tile.1

/-- The segments of a line join. -/
theorem ofLine_joins (replacements : List Replacement) (text : Array Char) (cursor : Nat) :
    (ofLine replacements text cursor).IsChain (Joins · text.size ·) := by
  fun_induction ofLine replacements text cursor with
  | case1 => exact .singleton _
  | case2 => exact .nil
  | case3 cursor boundary found success rest gap ih =>
      have bounds := next?_bounds success
      have tile := ofLine_tile replacements text found.stop bounds.2.2
      have inside : found.start ≤ text.size := Nat.le_trans (Nat.le_of_lt bounds.2.1) bounds.2.2
      refine .cons_cons ⟨gap, inside, rfl, .inr rfl⟩ (ih.cons fun next first => ?_)
      exact ⟨bounds.2.1, bounds.2.2, tile.head? next first, .inl rfl⟩
  | case4 cursor boundary found success rest noGap ih =>
      have bounds := next?_bounds success
      have tile := ofLine_tile replacements text found.stop bounds.2.2
      exact ih.cons fun next first => ⟨bounds.2.1, bounds.2.2, tile.head? next first, .inl rfl⟩

end Segment

/-- The second piece goes on where the first stops, in the same line, and one of them is a site. -/
structure Piece.Joins (first second : Piece) : Prop where
  goesOn : first.startsNewLine = false
  more : first.start < first.stop
  meets : second.start = first.stop
  bare : second.indentation? = none
  site : first.isSite = true ∨ second.isSite = true

/-- A segment ends where its characters do. -/
theorem Segment.piece_stop (line : Line) {segment : Segment} (ordered : segment.start ≤ segment.stop) :
    (segment.piece line).stop = line.start + Text.byteSize (line.text.take segment.stop) := by
  rw [← Text.take_append_drop_take line.text ordered, Text.byteSize_append, ← Nat.add_assoc]
  rfl

/-- A segment inside its line has characters. -/
theorem Segment.piece_text_ne_nil (line : Line) {segment : Segment}
    (nonempty : segment.start < segment.stop) (inside : segment.stop ≤ line.text.length) :
    (segment.piece line).text ≠ [] := by
  intro empty
  have none := congrArg List.length empty
  rw [Segment.piece, List.length_drop, List.length_take, Nat.min_eq_left inside] at none
  exact absurd none (Nat.sub_ne_zero_of_lt nonempty)

theorem Segment.Joins.piece {line : Line} {first second : Segment}
    (joins : first.Joins line.text.length second) :
    (first.piece line).Joins (second.piece line) where
  goesOn := rfl
  more := Nat.lt_add_of_pos_right
    (Text.byteSize_pos (Segment.piece_text_ne_nil line joins.nonempty joins.inside))
  meets := by
    rw [Segment.piece_stop line (Nat.le_of_lt joins.nonempty), ← joins.meets]
    rfl
  bare := rfl
  site := by
    rw [Segment.piece_isSite, Segment.piece_isSite]
    exact joins.site

namespace Assembly

/-- The start of a line keeps a chain whose relation does not read the indentation of the first piece. -/
theorem startLine_isChain {related : Piece → Piece → Prop} (indentation : Nat) {pieces : List Piece}
    (blind : ∀ first second, related first second →
      related { first with indentation? := some indentation } second)
    (chain : pieces.IsChain related) : (startLine indentation pieces).IsChain related := by
  cases chain with
  | nil => exact .nil
  | singleton piece => exact .singleton _
  | cons_cons here later => exact .cons_cons (blind _ _ here) later

/-- The end of a line keeps a chain whose relation does not read the line feed of the second piece. -/
theorem endLine_isChain {related : Piece → Piece → Prop} {pieces : List Piece}
    (blind : ∀ first second, related first second →
      related first { second with startsNewLine := true })
    (chain : pieces.IsChain related) : (endLine pieces).IsChain related := by
  fun_induction endLine pieces with
  | case1 => exact .nil
  | case2 piece => exact .singleton _
  | case3 piece rest more ih =>
      obtain ⟨here, later⟩ := List.isChain_cons.1 chain
      refine (ih later).cons fun next first => ?_
      cases rest with
      | nil => exact absurd rfl more
      | cons second others =>
          cases others with
          | nil =>
              cases first
              exact blind _ _ (here second rfl)
          | cons third others =>
              cases first
              exact here _ rfl

theorem startLine_head? (indentation : Nat) (pieces : List Piece) :
    ∀ piece ∈ (startLine indentation pieces).head?, piece.indentation? = some indentation := by
  intro piece first
  cases pieces with
  | nil => cases first
  | cons head rest =>
      cases first
      rfl

theorem endLine_head? {pieces : List Piece} :
    ∀ piece ∈ (endLine pieces).head?, ∃ other ∈ pieces.head?,
      piece.indentation? = other.indentation? := by
  intro piece first
  cases pieces with
  | nil => cases first
  | cons other rest =>
      cases rest with
      | nil =>
          cases first
          exact ⟨other, rfl, rfl⟩
      | cons second others =>
          cases first
          exact ⟨piece, rfl, rfl⟩

/-- The last piece of an ended line starts a new line. -/
theorem endLine_getLast? {pieces : List Piece} :
    ∀ piece ∈ (endLine pieces).getLast?, piece.startsNewLine = true := by
  intro piece last
  rcases List.eq_nil_or_concat pieces with rfl | ⟨before, final, rfl⟩
  · cases last
  · rw [List.concat_eq_append, endLine_concat, List.getLast?_concat] at last
    cases last
    rfl

end Assembly

namespace Line

/-- The line holds the text of a piece where the piece stands. -/
def Holds (line : Line) (piece : Piece) : Prop :=
  ∃ before after, line.text = before ++ piece.text ++ after ∧
    piece.start = line.start + Text.byteSize before

theorem Holds.within {line : Line} {piece : Piece} (holds : line.Holds piece) :
    line.start ≤ piece.start ∧ piece.stop ≤ line.stop := by
  obtain ⟨before, after, same, start⟩ := holds
  rw [Piece.stop, Line.stop, same, start]
  simp only [Text.byteSize_append]
  omega

/-- Between pieces of two lines lies a line feed. -/
theorem Precedes.gap {source : Text} {first second : Line} (precedes : first.Precedes source second)
    {piece later : Piece} (holds : first.Holds piece) (holdsLater : second.Holds later) :
    ∃ gap, Text.slice? source piece.stop later.start = some gap ∧ '\n' ∈ gap := by
  obtain ⟨gap, feed, lies, start⟩ := precedes
  obtain ⟨before, after, text, place⟩ := holds
  obtain ⟨earlier, behind, textLater, placeLater⟩ := holdsLater
  refine ⟨after ++ gap ++ earlier, Text.slice?_eq_some_iff.2 ⟨?_, ?_⟩, by simp [feed]⟩
  · have part : Text.LiesAt source (first.start + Text.byteSize (before ++ piece.text))
        (after ++ gap ++ earlier) := by
      refine Text.LiesAt.part _ (later.text ++ behind) ?_
      simpa [text, textLater] using lies
    rwa [Text.byteSize_append, ← Nat.add_assoc, ← place] at part
  · rw [placeLater, start, Line.stop, text, Piece.stop, place]
    simp only [Text.byteSize_append]
    omega

/-- The pieces of a line join. -/
theorem pieces_joins (line : Line) (patterns : List Pattern) (base : Nat) (isLast : Bool) :
    (line.pieces patterns base isLast).IsChain Piece.Joins := by
  have joined : ((line.segments patterns).map (Segment.piece line)).IsChain Piece.Joins := by
    rw [List.isChain_map]
    have joined := Segment.ofLine_joins (patterns.map fun pattern => ⟨pattern, 0⟩) line.text.toArray
      line.indentation
    exact joined.imp fun first second joins => joins.piece
  have started := Assembly.startLine_isChain (line.indentation - base)
    (fun first second joins => ⟨joins.goesOn, joins.more, joins.meets, joins.bare, joins.site⟩) joined
  cases isLast with
  | true => exact started
  | false =>
      exact Assembly.endLine_isChain (fun first second joins =>
        ⟨joins.goesOn, joins.more, joins.meets, joins.bare, joins.site⟩) started

/-- The first piece of a line has an indentation. -/
theorem pieces_head? (line : Line) (patterns : List Pattern) (base : Nat) (isLast : Bool) :
    ∀ piece ∈ (line.pieces patterns base isLast).head?, piece.indentation?.isSome = true := by
  intro piece first
  cases isLast with
  | true => rw [Assembly.startLine_head? _ _ piece first, Option.isSome_some]
  | false =>
      obtain ⟨other, started, same⟩ := Assembly.endLine_head? piece first
      rw [same, Assembly.startLine_head? _ _ other started, Option.isSome_some]

/-- The last piece of a line starts a new line, unless the text ends behind it. -/
theorem pieces_getLast? (line : Line) (patterns : List Pattern) (base : Nat) :
    ∀ piece ∈ (line.pieces patterns base false).getLast?, piece.startsNewLine = true :=
  Assembly.endLine_getLast?

section

variable {line : Line} {patterns : List Pattern} {base : Nat} {isLast : Bool} {piece : Piece}

/-- A line holds its pieces. -/
theorem pieces_held (formed : line.Formed) (notEmpty : line.kind ≠ .empty)
    (member : piece ∈ line.pieces patterns base isLast) : line.Holds piece ∧ piece.text ≠ [] := by
  obtain ⟨segment, inside, start, text, _⟩ := exists_segment member
  have tile := line.segments_tile formed notEmpty patterns
  have nonempty := tile.nonempty inside
  have bound := tile.stop_le inside
  refine ⟨⟨line.text.take segment.start, line.text.drop segment.stop, ?_, start.symm⟩, ?_⟩
  · rw [← text, Segment.piece, Text.take_append_drop_take line.text (Nat.le_of_lt nonempty),
      List.take_append_drop]
  · rw [← text]
    exact Segment.piece_text_ne_nil line nonempty bound

/-- The whole match of a site is its span. -/
theorem pieces_groups (formed : line.Formed) (notEmpty : line.kind ≠ .empty)
    (member : piece ∈ line.pieces patterns base isLast) (isSite : piece.isSite = true) :
    piece.groups?.bind List.head? = some (some piece.span) := by
  obtain ⟨segment, inside, start, text, groups⟩ := exists_segment member
  have ordered := Nat.le_of_lt ((line.segments_tile formed notEmpty patterns).nonempty inside)
  have span : (segment.piece line).span = piece.span := by
    rw [Piece.span, Piece.span, Piece.stop, Piece.stop, start, text]
  rw [Piece.isSite, ← groups] at isSite
  rw [← groups, ← span, Piece.span, Segment.piece_stop line ordered]
  cases segment with
  | plain => cases isSite
  | site => rfl

end

end Line

end Stencil
