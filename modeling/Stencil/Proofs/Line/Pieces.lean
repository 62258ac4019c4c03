/-
This file says what the pieces of a line render to: the line behind the base, and a line feed.
-/
import Stencil.Proofs.Line.Formed
import Stencil.Proofs.Segment

namespace Stencil

/-- A piece renders to the spaces of its indentation, its text, and a line feed if it ends a line. -/
def Piece.rendered (piece : Piece) : Text :=
  List.replicate (piece.indentation?.getD 0) ' ' ++ piece.text ++
    if piece.startsNewLine then ['\n'] else []

namespace Assembly

theorem startLine_length (indentation : Nat) (pieces : List Piece) :
    (startLine indentation pieces).length = pieces.length := by
  cases pieces <;> rfl

/-- The start of a line changes the indentation of a piece only. -/
theorem startLine_preserves {Value : Type} (read : Piece → Value) (indentation : Nat)
    (pieces : List Piece)
    (blind : ∀ piece : Piece, read { piece with indentation? := some indentation } = read piece) :
    (startLine indentation pieces).map read = pieces.map read := by
  cases pieces with
  | nil => rfl
  | cons piece rest => rw [startLine, List.map_cons, List.map_cons, blind]

/-- The end of a line changes the line feed of a piece only. -/
theorem endLine_preserves {Value : Type} (read : Piece → Value) (pieces : List Piece)
    (blind : ∀ piece : Piece, read { piece with startsNewLine := true } = read piece) :
    (endLine pieces).map read = pieces.map read := by
  fun_induction endLine pieces with
  | case1 => rfl
  | case2 piece => rw [List.map_singleton, List.map_singleton, blind]
  | case3 piece rest _ ih => rw [List.map_cons, List.map_cons, ih]

theorem endLine_length (pieces : List Piece) : (endLine pieces).length = pieces.length := by
  have same := congrArg List.length (endLine_preserves Piece.start pieces fun _ => rfl)
  rwa [List.length_map, List.length_map] at same

theorem endLine_concat (pieces : List Piece) (piece : Piece) :
    endLine (pieces ++ [piece]) = pieces ++ [{ piece with startsNewLine := true }] := by
  induction pieces with
  | nil => rfl
  | cons first rest ih =>
      rw [List.cons_append, List.cons_append, endLine, ih]
      exact List.append_ne_nil_of_right_ne_nil _ (List.cons_ne_nil _ _)

/-- The start of a line renders to its indentation. -/
theorem startLine_rendered (indentation : Nat) {pieces : List Piece} (nonempty : pieces ≠ [])
    (bare : ∀ piece ∈ pieces, piece.indentation? = none) :
    (startLine indentation pieces).flatMap Piece.rendered =
      List.replicate indentation ' ' ++ pieces.flatMap Piece.rendered := by
  cases pieces with
  | nil => exact absurd rfl nonempty
  | cons piece rest =>
      have first := bare piece List.mem_cons_self
      simp [startLine, Piece.rendered, first]

/-- The end of a line renders to a line feed. -/
theorem endLine_rendered {pieces : List Piece} (nonempty : pieces ≠ [])
    (bare : ∀ piece ∈ pieces, piece.startsNewLine = false) :
    (endLine pieces).flatMap Piece.rendered = pieces.flatMap Piece.rendered ++ ['\n'] := by
  fun_induction endLine pieces with
  | case1 => exact absurd rfl nonempty
  | case2 piece =>
      have last := bare piece List.mem_cons_self
      simp [Piece.rendered, last]
  | case3 piece rest more ih =>
      rw [List.flatMap_cons, List.flatMap_cons, List.append_assoc,
        ih (fun empty => more (by rw [empty])) fun other member => bare other (.tail _ member)]

end Assembly

namespace Segment

/-- No segment of a tiled interval is empty. -/
theorem Tile.nonempty {start stop : Nat} {segments : List Segment} (tile : Tile start stop segments)
    {segment : Segment} (member : segment ∈ segments) : segment.start < segment.stop := by
  induction segments generalizing start with
  | nil => cases member
  | cons first rest ih =>
      obtain ⟨rfl, more, others⟩ := tile
      rcases List.mem_cons.1 member with rfl | behind
      · exact more
      · exact ih others behind

/-- No segment of a tiled interval reaches behind it. -/
theorem Tile.stop_le {start stop : Nat} {segments : List Segment} (tile : Tile start stop segments)
    {segment : Segment} (member : segment ∈ segments) : segment.stop ≤ stop := by
  induction segments generalizing start with
  | nil => cases member
  | cons first rest ih =>
      obtain ⟨rfl, more, others⟩ := tile
      rcases List.mem_cons.1 member with rfl | behind
      · exact others.le
      · exact ih others behind

theorem piece_rendered (line : Line) (segment : Segment) :
    (segment.piece line).rendered = segment.characters line.text := by
  simp [Piece.rendered, piece, characters]

end Segment

namespace Line

/-- The content of a line that is not blank is longer than its indentation. -/
theorem Formed.indentation_lt {line : Line} (formed : line.Formed) (notEmpty : line.kind ≠ .empty) :
    line.indentation < line.text.length := by
  obtain ⟨content, nonempty, _, same⟩ := formed.indented notEmpty
  have := List.length_pos_iff.2 nonempty
  have size := congrArg List.length same
  rw [List.length_append, List.length_replicate] at size
  omega

/-- The text behind a base to the left of the content begins with spaces. -/
theorem Formed.drop_base {line : Line} (formed : line.Formed) (notEmpty : line.kind ≠ .empty)
    {base : Nat} (inside : base ≤ line.indentation) :
    line.text.drop base =
      List.replicate (line.indentation - base) ' ' ++ line.text.drop line.indentation := by
  obtain ⟨content, _, _, same⟩ := formed.indented notEmpty
  rw [same, List.drop_append, List.drop_replicate, List.drop_append, List.drop_replicate,
    List.length_replicate, Nat.sub_self, Nat.sub_eq_zero_of_le inside, List.replicate_zero,
    List.drop_zero, List.nil_append]

theorem segments_tile {line : Line} (formed : line.Formed) (notEmpty : line.kind ≠ .empty)
    (patterns : List Pattern) :
    Segment.Tile line.indentation line.text.length (line.segments patterns) := by
  have inside := Nat.le_of_lt (formed.indentation_lt notEmpty)
  have tile := Segment.ofLine_tile (patterns.map fun pattern => ⟨pattern, 0⟩) line.text.toArray
    line.indentation (by simpa using inside)
  simpa [segments] using tile

/-- What is read from a piece without its indentation and its line feed is read from its segment. -/
theorem pieces_map {Value : Type} (read : Piece → Value)
    (blind : ∀ (piece : Piece) (indentation? : Option Nat) (startsNewLine : Bool),
      read { piece with indentation?, startsNewLine } = read piece)
    (line : Line) (patterns : List Pattern) (base : Nat) (isLast : Bool) :
    (line.pieces patterns base isLast).map read =
      (line.segments patterns).map fun segment => read (segment.piece line) := by
  have started := Assembly.startLine_preserves read (line.indentation - base)
    ((line.segments patterns).map (Segment.piece line)) fun piece => blind piece _ piece.startsNewLine
  rw [List.map_map] at started
  cases isLast with
  | true => exact started
  | false =>
      refine Eq.trans ?_ started
      exact Assembly.endLine_preserves read _ fun piece => blind piece piece.indentation? _

/-- The pieces of a line render to the line behind the base. -/
theorem pieces_rendered {line : Line} (formed : line.Formed) (notEmpty : line.kind ≠ .empty)
    (patterns : List Pattern) {base : Nat} (inside : base ≤ line.indentation) (isLast : Bool) :
    (line.pieces patterns base isLast).flatMap Piece.rendered =
      line.text.drop base ++ if isLast then [] else ['\n'] := by
  have tile := line.segments_tile formed notEmpty patterns
  have nonempty : (line.segments patterns).map (Segment.piece line) ≠ [] := by
    intro empty
    exact tile.ne_nil (formed.indentation_lt notEmpty) (List.map_eq_nil_iff.1 empty)
  have started : (Assembly.startLine (line.indentation - base)
      ((line.segments patterns).map (Segment.piece line))).flatMap Piece.rendered =
        line.text.drop base := by
    rw [Assembly.startLine_rendered _ nonempty, formed.drop_base notEmpty inside, List.flatMap_map]
    · simp only [Segment.piece_rendered]
      rw [tile.flatMap_characters, List.take_length]
    · intro piece member
      obtain ⟨segment, _, rfl⟩ := List.mem_map.1 member
      rfl
  cases isLast with
  | true =>
      change (Assembly.startLine _ ((line.segments patterns).map _)).flatMap _ = _
      rw [started, if_pos rfl, List.append_nil]
  | false =>
      change (Assembly.endLine (Assembly.startLine _ ((line.segments patterns).map _))).flatMap _ = _
      rw [Assembly.endLine_rendered, started, if_neg Bool.false_ne_true]
      · intro empty
        have := congrArg List.length empty
        rw [Assembly.startLine_length, List.length_nil] at this
        exact nonempty (List.length_eq_zero_iff.1 this)
      · have blind := Assembly.startLine_preserves Piece.startsNewLine (line.indentation - base)
          ((line.segments patterns).map (Segment.piece line)) fun _ => rfl
        rw [List.map_map] at blind
        intro piece member
        have among := List.mem_map_of_mem (f := Piece.startsNewLine) member
        rw [blind] at among
        obtain ⟨segment, _, same⟩ := List.mem_map.1 among
        exact same.symm

/-- Each piece of a line is the piece of one of its segments, up to its indentation and its line feed. -/
theorem exists_segment {line : Line} {patterns : List Pattern} {base : Nat} {isLast : Bool}
    {piece : Piece} (member : piece ∈ line.pieces patterns base isLast) :
    ∃ segment ∈ line.segments patterns, (segment.piece line).start = piece.start ∧
      (segment.piece line).text = piece.text ∧ (segment.piece line).groups? = piece.groups? := by
  have among := List.mem_map_of_mem
    (f := fun piece => (piece.start, piece.text, piece.groups?)) member
  rw [pieces_map _ fun _ _ _ => rfl] at among
  obtain ⟨segment, inside, same⟩ := List.mem_map.1 among
  obtain ⟨start, rest⟩ := Prod.mk.inj same
  exact ⟨segment, inside, start, Prod.mk.inj rest⟩

/-- The pieces of a line have no line feed. -/
theorem pieces_noFeed {line : Line} (formed : line.Formed) {patterns : List Pattern} {base : Nat}
    {isLast : Bool} {piece : Piece} (member : piece ∈ line.pieces patterns base isLast) :
    '\n' ∉ piece.text := by
  obtain ⟨segment, _, _, text, _⟩ := exists_segment member
  rw [← text]
  exact fun feed => formed.noFeed (List.mem_of_mem_take (List.mem_of_mem_drop feed))

/-- The pieces of a line lie in the source that the line lies in. -/
theorem pieces_lie {source : Text} {line : Line} (formed : line.Formed)
    (notEmpty : line.kind ≠ .empty) (lies : Text.LiesAt source line.start line.text)
    {patterns : List Pattern} {base : Nat} {isLast : Bool} {piece : Piece}
    (member : piece ∈ line.pieces patterns base isLast) :
    Text.LiesAt source piece.start piece.text := by
  obtain ⟨segment, inside, start, text, _⟩ := exists_segment member
  have nonempty := (line.segments_tile formed notEmpty patterns).nonempty inside
  rw [← start, ← text]
  exact lies.take_drop segment.start segment.stop (Nat.le_of_lt nonempty)

/-- Replacements cut a line as their patterns do. -/
theorem segments_of_replacements (line : Line) (replacements : List Replacement) :
    line.segments (replacements.map Replacement.pattern) =
      (Segment.ofLine replacements line.text.toArray line.indentation).map Segment.unowned := by
  rw [segments, List.map_map]
  exact Segment.ofLine_unowned replacements _ _

theorem pieces_of_replacements (line : Line) (replacements : List Replacement) (base : Nat)
    (isLast : Bool) :
    line.pieces (replacements.map Replacement.pattern) base isLast =
      let pieces := Assembly.startLine (line.indentation - base)
        ((Segment.ofLine replacements line.text.toArray line.indentation).map (Segment.piece line))
      if isLast then pieces else Assembly.endLine pieces := by
  rw [pieces, segments_of_replacements, List.map_map]
  simp only [Function.comp_def, Segment.piece_unowned]

/-- The sites among the pieces of a line are those segments that belong to a replacement. -/
theorem pieces_map_isSite (line : Line) (replacements : List Replacement) (base : Nat)
    (isLast : Bool) :
    (line.pieces (replacements.map Replacement.pattern) base isLast).map Piece.isSite =
      ((Segment.ofLine replacements line.text.toArray line.indentation).map
        Segment.boundary?).map Option.isSome := by
  rw [pieces_map Piece.isSite fun _ _ _ => rfl, segments_of_replacements, List.map_map, List.map_map]
  apply List.map_congr_left
  intro segment _
  rw [Function.comp_apply, Segment.piece_unowned, Segment.piece_isSite, Function.comp_apply]

end Line

namespace Placed

/-- A kept line is not blank and must not stand left of the base. -/
theorem isChecked_of_isKept {placed : Placed} (kept : placed.isKept = true) :
    placed.line.kind ≠ .empty ∧ placed.isChecked = true := by
  cases kind : placed.line.kind <;> simp_all [isKept, isChecked]

/-- The pieces that a line adds render to the text that it adds. -/
theorem pieces_rendered {placed : Placed} (formed : placed.line.Formed) {base : Nat}
    (inside : placed.isChecked = true → base ≤ placed.line.indentation) :
    (placed.pieces base).flatMap Piece.rendered = placed.text base := by
  unfold pieces text
  by_cases empty : placed.line.kind = .empty
  · rw [if_pos empty, if_pos empty, feed]
    cases placed.isLast <;> rfl
  · rw [if_neg empty, if_neg empty]
    by_cases kept : placed.isKept = true
    · rw [if_pos kept, if_pos kept]
      exact placed.line.pieces_rendered formed empty _ (inside (isChecked_of_isKept kept).2) _
    · rw [if_neg kept, if_neg kept, List.flatMap_nil]

/-- The pieces that a line adds lie in the source that the line lies in. -/
theorem pieces_lie {source : Text} {placed : Placed} (formed : placed.line.Formed)
    (lies : Text.LiesAt source placed.line.start placed.line.text) {base : Nat} {piece : Piece}
    (member : piece ∈ placed.pieces base) : Text.LiesAt source piece.start piece.text := by
  unfold pieces at member
  split at member
  · split at member
    · cases member
    · rw [List.mem_singleton.1 member]
      obtain ⟨before, after, same, offset⟩ := lies
      exact ⟨before, placed.line.text ++ after, by rw [same]; simp, offset⟩
  · next notEmpty =>
      split at member
      · exact placed.line.pieces_lie formed notEmpty lies member
      · cases member

end Placed

end Stencil
