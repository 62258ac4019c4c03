/-
This file shows what a line of text adds to a body: the pieces between and at its leftmost matches, with each
match listed at its replacement.
-/
import Stencil.Proofs.Assembly.Growth
import Stencil.Proofs.Line.Leftmost

namespace Stencil.Assembly

namespace Body

/-- The sites that the replacement with a boundary owns among new pieces, of which the first has an index and
the first site has a number. -/
def sitesOf (boundary : Nat) : (piece number : Nat) → List (Option Nat) → List Site
  | _, _, [] => []
  | piece, number, none :: owners => sitesOf boundary (piece + 1) number owners
  | piece, number, some owner :: owners =>
      (if boundary = owner then [⟨piece, number⟩] else []) ++ sitesOf boundary (piece + 1) (number + 1) owners

/-- A body takes some pieces. Those that have an owner are listed as sites at its boundary. -/
structure Takes (body grown : Body) (pieces : List Piece) (owners : List (Option Nat)) : Prop where
  pieces : grown.pieces.toList = body.pieces.toList ++ pieces
  sites : ∀ boundary, Boundary.sitesAt grown.boundaries.toList boundary =
    Boundary.sitesAt body.boundaries.toList boundary ++
      sitesOf boundary body.pieces.size body.siteCount owners

variable {body : Body}

/-- The pieces of a line are taken, each with its owner. -/
theorem addLine_takes {entries : List (Piece × Option Nat)} (clean : ∀ entry ∈ entries, '\n' ∉ entry.1.text)
    (owned : ∀ entry ∈ entries, ∀ owner, entry.2 = some owner → body.Owns owner) :
    ∃ grown, body.addLine entries = .ok grown ∧
      body.Takes grown (entries.map Prod.fst) (entries.map Prod.snd) := by
  induction entries generalizing body with
  | nil => exact ⟨body, rfl, (List.append_nil _).symm, fun _ => (List.append_nil _).symm⟩
  | cons entry rest ih =>
      obtain ⟨clear, cleanRest⟩ := List.forall_mem_cons.1 clean
      obtain ⟨owns, ownedRest⟩ := List.forall_mem_cons.1 owned
      obtain ⟨piece, owner?⟩ := entry
      cases owner? with
      | none =>
          obtain ⟨grown, added, takes⟩ :=
            @ih { body with pieces := body.pieces.push piece } cleanRest ownedRest
          refine ⟨grown, ?_, ?_, fun boundary => ?_⟩
          · rw [addLine, addPiece_ok clear]
            exact added
          · rw [takes.pieces, Array.toList_push, List.append_assoc]
            rfl
          · rw [takes.sites, Array.size_push]
            rfl
      | some owner =>
          obtain ⟨boundary, found, opens, recorded⟩ := (owns owner rfl).addSite_ok clear
          obtain ⟨grown, added, takes⟩ :=
            @ih (body.withSite piece owner boundary) cleanRest fun other member next same => by
              rw [Owns, withSite_marks found]
              exact ownedRest other member next same
          refine ⟨grown, (addLine_cons_site recorded rest).trans added, ?_, fun index => ?_⟩
          · rw [takes.pieces, withSite, Array.toList_push, List.append_assoc]
            rfl
          · rw [takes.sites, withSite, Array.toList_setIfInBounds, Boundary.sitesAt_set_record found opens,
              Array.size_push, List.append_assoc]
            rfl

end Body

/-- A line of text that is not left of the base is cut by the replacements that are open. -/
theorem State.addText_kept {state : State} {body : Body} {line : Line} (hasBody : state.body? = some body)
    (kept : state.insideInsert = false) (base : body.base ≤ line.indentation) (isLast : Bool) :
    state.addText line isLast =
      (body.addLine ((line.pieces (state.replacements.map Replacement.pattern) body.base isLast).zip
        ((Segment.ofLine state.replacements line.text.toArray line.indentation).map Segment.boundary?))).map
          state.withBody := by
  have indentation : state.relativeIndentation line = .ok (line.indentation - body.base) := by
    rw [relativeIndentation, hasBody]
    exact if_pos base
  rw [addText, hasBody, line.pieces_of_replacements]
  dsimp only
  rw [if_neg (by rw [kept]; exact Bool.false_ne_true), indentation]
  change (body.addLine _ >>= fun grown => .ok (state.withBody grown)) = _
  generalize body.addLine _ = outcome
  cases outcome <;> rfl

end Stencil.Assembly

namespace Stencil

/-- The pieces of a line are those of its segments, apart from where the line starts and ends. -/
theorem Line.pieces_bare (line : Line) (replacements : List Replacement) (base : Nat) (isLast : Bool) :
    (line.pieces (replacements.map Replacement.pattern) base isLast).map Piece.bare =
      (Segment.ofLine replacements line.text.toArray line.indentation).map (Segment.piece line) := by
  rw [pieces_map Piece.bare fun _ _ _ => rfl, segments_of_replacements, List.map_map]
  exact List.map_congr_left fun segment _ => Segment.piece_unowned line segment

/-- The pieces of a line without line feeds may be added, each site to a body that has its replacement. -/
theorem Assembly.Body.takes_line {body : Body} {replacements : List Replacement}
    (owned : ∀ replacement ∈ replacements, body.Owns replacement.boundary) {line : Line}
    (noFeed : '\n' ∉ line.text) (base : Nat) (isLast : Bool) :
    ∃ grown, body.addLine ((line.pieces (replacements.map Replacement.pattern) base isLast).zip
        ((Segment.ofLine replacements line.text.toArray line.indentation).map Segment.boundary?)) = .ok grown ∧
      body.Takes grown (line.pieces (replacements.map Replacement.pattern) base isLast)
        ((Segment.ofLine replacements line.text.toArray line.indentation).map Segment.boundary?) := by
  have sizes := congrArg List.length (line.pieces_bare replacements base isLast)
  rw [List.length_map, List.length_map, ← List.length_map Segment.boundary?] at sizes
  have clean : ∀ piece ∈ line.pieces (replacements.map Replacement.pattern) base isLast, '\n' ∉ piece.text := by
    intro piece member
    obtain ⟨segment, _, _, text, _⟩ := Line.exists_segment member
    rw [← text]
    exact fun feed => noFeed (List.mem_of_mem_take (List.mem_of_mem_drop feed))
  have owners : ∀ owner, some owner ∈
      (Segment.ofLine replacements line.text.toArray line.indentation).map Segment.boundary? →
        body.Owns owner := by
    intro owner member
    obtain ⟨segment, among, same⟩ := List.mem_map.1 member
    obtain ⟨replacement, known, rfl⟩ := Segment.ofLine_boundary among same
    exact owned replacement known
  have takes := addLine_takes (fun entry member => clean entry.1 (List.of_mem_zip member).1)
    fun entry member owner same => owners owner (same ▸ (List.of_mem_zip member).2)
  rwa [List.map_fst_zip (Nat.le_of_eq sizes), List.map_snd_zip (Nat.le_of_eq sizes.symm)] at takes

/-- A line of text behind the base is cut by the replacements that are open, outermost first, at their leftmost
matches with characters. Its pieces cover it from its indentation to its end, and each match is listed at the
replacement that it is the preferred match of. -/
theorem text_cut_at_leftmost {state : Assembly.State} {body : Assembly.Body} {line : Line}
    (hasBody : state.body? = some body) (kept : state.insideInsert = false)
    (owned : ∀ replacement ∈ state.replacements, body.Owns replacement.boundary)
    (noFeed : '\n' ∉ line.text) (inside : line.indentation ≤ line.text.length)
    (base : body.base ≤ line.indentation) (isLast : Bool) :
    ∃ segments pieces grown, state.addText line isLast = .ok (state.withBody grown) ∧
      Segment.Leftmost state.replacements line.text.toArray line.indentation segments ∧
      Segment.Tile line.indentation line.text.length segments ∧
      pieces.map Piece.bare = segments.map (Segment.piece line) ∧
      Piece.Tile (line.start + Text.byteSize (line.text.take line.indentation)) line.stop pieces ∧
      body.Takes grown pieces (segments.map Segment.boundary?) := by
  have tile := Segment.ofLine_tile state.replacements line.text.toArray line.indentation (by simpa using inside)
  rw [List.size_toArray] at tile
  have bare := line.pieces_bare state.replacements body.base isLast
  obtain ⟨grown, added, takes⟩ := body.takes_line owned noFeed body.base isLast
  refine ⟨_, _, grown, ?_, Segment.ofLine_leftmost _ _ _, tile, bare, Piece.tile_of_segments line bare tile, takes⟩
  rw [Assembly.State.addText_kept hasBody kept base, added]
  rfl

/-- Three replacements. The first has empty matches too, and the others match at one place. -/
def rivalReplacements : List Replacement :=
  (["b*$", "(a)b", "a+"].filterMap fun text => Pattern.compile? text.toList).zipIdx.map
    fun (pattern, boundary) => ⟨pattern, boundary⟩

/-- A body in which three replacements are open. -/
def rivalBody : Assembly.Body where
  name := []
  base := 1
  boundaries := #[.opening 0 0 (.replace ['x'] ⟨false⟩ #[]), .opening 0 0 (.replace ['y'] ⟨false⟩ #[]),
    .opening 0 0 (.replace ['z'] ⟨false⟩ #[])]

/-- A line that the replacements cut. -/
def rivalLine : Line := ⟨3, 10, "  éabaac b".toList, some 2, .regular⟩

/-- A state with the three replacements. -/
def rivalState : Assembly.State :=
  { Assembly.State.single with body? := some rivalBody, replacements := rivalReplacements }

theorem text_cut_at_leftmost_rivals :
    (rivalState.addText rivalLine true).toOption.map (fun state => state.body?.map fun body =>
        (body.pieces.toList.map fun piece => (piece.start, piece.stop),
          body.boundaries.toList.map Boundary.sites)) =
      some (some ([(12, 14), (14, 16), (16, 18), (18, 20), (20, 21)],
        [[⟨4, 2⟩], [⟨1, 0⟩], [⟨2, 1⟩]])) ∧
    ∃ segments pieces grown, rivalState.addText rivalLine true = .ok (rivalState.withBody grown) ∧
      Segment.Leftmost rivalReplacements rivalLine.text.toArray 2 segments ∧
      Segment.Tile 2 10 segments ∧ pieces.map Piece.bare = segments.map (Segment.piece rivalLine) ∧
      Piece.Tile 12 21 pieces ∧ rivalBody.Takes grown pieces (segments.map Segment.boundary?) := by
  have boundaries : rivalReplacements.map Replacement.boundary = [0, 1, 2] := by decide +kernel
  have owned : ∀ replacement ∈ rivalReplacements, rivalBody.Owns replacement.boundary := by
    intro replacement member
    have among := List.mem_map_of_mem (f := Replacement.boundary) member
    rw [boundaries] at among
    simp only [List.mem_cons, List.not_mem_nil, or_false] at among
    rcases among with same | same | same <;> rw [same] <;> exact ⟨_, _, rfl⟩
  refine ⟨by decide +kernel, ?_⟩
  have cut := @text_cut_at_leftmost rivalState rivalBody rivalLine rfl rfl owned (by decide) (by decide)
    (by decide) true
  have start : rivalLine.start + Text.byteSize (rivalLine.text.take rivalLine.indentation) = 12 := by decide
  have stop : rivalLine.stop = 21 := by decide
  rw [start, stop] at cut
  exact cut

end Stencil
