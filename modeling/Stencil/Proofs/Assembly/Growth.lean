/-
This file shows how a body grows: pieces and boundaries are added behind those that it has, and what its
boundaries record stays right.
-/
import Stencil.Assembly.Step
import Stencil.Proofs.Template.Recorded

namespace Stencil.Assembly.Body

/-- The marks of the boundaries of a body. -/
def marks (body : Body) : List Mark := body.boundaries.toList.map Boundary.mark

/-- The boundary with an index opens a replacement. -/
def Owns (body : Body) (index : Nat) : Prop :=
  ∃ field flags, body.marks[index]? = some (.opening (.replace field flags #[]))

/-- A body grows by some pieces and some marks. -/
structure Grows (body grown : Body) (pieces : List Piece) (marks : List Mark) : Prop where
  name : grown.name = body.name
  base : grown.base = body.base
  pieces : grown.pieces.toList = body.pieces.toList ++ pieces
  marks : grown.marks = body.marks ++ marks

/-- The sites of a body are counted, and its boundaries record them. Some openings are open, innermost
first. -/
structure Sound (body : Body) (opened : List Nat) : Prop where
  counted : body.siteCount = body.pieces.toList.countP Piece.isSite
  recorded : ∃ spans, Ledger body.boundaries.toList body.pieces.toList opened spans

theorem Grows.refl (body : Body) : body.Grows body [] [] :=
  ⟨rfl, rfl, (List.append_nil _).symm, (List.append_nil _).symm⟩

theorem Grows.trans {body middle grown : Body} {pieces more : List Piece} {marks others : List Mark}
    (first : body.Grows middle pieces marks) (second : middle.Grows grown more others) :
    body.Grows grown (pieces ++ more) (marks ++ others) where
  name := second.name.trans first.name
  base := second.base.trans first.base
  pieces := by rw [second.pieces, first.pieces, List.append_assoc]
  marks := by rw [second.marks, first.marks, List.append_assoc]

theorem Owns.grow {body grown : Body} {pieces : List Piece} {marks : List Mark} {index : Nat}
    (owns : body.Owns index) (growth : body.Grows grown pieces marks) : grown.Owns index := by
  obtain ⟨field, flags, found⟩ := owns
  refine ⟨field, flags, ?_⟩
  rw [growth.marks, List.getElem?_append_left (List.getElem?_eq_some_iff.1 found).1, found]

/-- A body without pieces and boundaries is sound. -/
theorem sound_empty (name : Text) (base : Nat) : Sound ⟨name, base, #[], #[], 0⟩ [] where
  counted := rfl
  recorded := ⟨[], Ledger.empty⟩

theorem siteCount_eq {body : Body} {opened : List Nat} (sound : body.Sound opened) :
    body.siteCount = Piece.sitesBefore body.pieces.toList body.pieces.toList.length := by
  rw [Piece.sitesBefore_length, sound.counted]

theorem addPiece_ok {body : Body} {piece : Piece} (clean : '\n' ∉ piece.text) :
    body.addPiece piece = .ok { body with pieces := body.pieces.push piece } := by
  rw [addPiece, if_neg]
  simpa using clean

/-- The body with one more piece, which is recorded as a site at a boundary with an index. -/
def withSite (body : Body) (piece : Piece) (owner : Nat) (boundary : Boundary) : Body :=
  { body with
    boundaries := body.boundaries.setIfInBounds owner (boundary.record ⟨body.pieces.size, body.siteCount⟩)
    pieces := body.pieces.push piece
    siteCount := body.siteCount + 1 }

theorem withSite_marks {body : Body} {piece : Piece} {owner : Nat} {boundary : Boundary}
    (found : body.boundaries.toList[owner]? = some boundary) :
    (body.withSite piece owner boundary).marks = body.marks := by
  rw [marks, withSite, Array.toList_setIfInBounds]
  exact Boundary.map_set _ found (Boundary.record_mark _ _)

/-- A piece is added and recorded as a site at a boundary that opens a replacement. -/
theorem Owns.addSite_ok {body : Body} {owner : Nat} (owns : body.Owns owner) {piece : Piece}
    (clean : '\n' ∉ piece.text) :
    ∃ boundary, body.boundaries.toList[owner]? = some boundary ∧ boundary.opensReplacement = true ∧
      (body.addPiece piece >>= fun body => body.addSite owner) = .ok (body.withSite piece owner boundary) := by
  obtain ⟨field, flags, mark⟩ := owns
  rw [marks, List.getElem?_map, Option.map_eq_some_iff] at mark
  obtain ⟨boundary, found, mark⟩ := mark
  refine ⟨boundary, found, ?_⟩
  cases boundary with
  | closing => cases mark
  | opening before number region =>
      cases region with
      | foreach | insert => cases mark
      | replace field flags sites =>
          have held : body.boundaries[owner]? = some (.opening before number (.replace field flags sites)) := by
            rw [← Array.getElem?_toList, found]
          refine ⟨rfl, ?_⟩
          rw [addPiece_ok clean]
          change addSite _ owner = _
          rw [addSite, if_neg (by simp)]
          simp only [held, Array.size_push, Nat.add_sub_cancel]
          rfl

/-- A piece that is no site is added. -/
theorem addPiece_plain {body : Body} {opened : List Nat} (sound : body.Sound opened) {piece : Piece}
    (clean : '\n' ∉ piece.text) (notSite : piece.isSite = false) :
    ∃ grown, body.addPiece piece = .ok grown ∧ grown.Sound opened ∧ body.Grows grown [piece] [] := by
  refine ⟨_, addPiece_ok clean, ⟨?_, ?_⟩, ?_⟩
  · rw [Array.toList_push, List.countP_append, ← sound.counted]
    simp [notSite]
  · obtain ⟨spans, ledger⟩ := sound.recorded
    rw [Array.toList_push]
    exact ⟨spans, ledger.plain notSite⟩
  · exact ⟨rfl, rfl, Array.toList_push, (List.append_nil _).symm⟩

/-- A piece that is a site is added and recorded at its open replacement. -/
theorem addPiece_site {body : Body} {opened : List Nat} (sound : body.Sound opened) {piece : Piece}
    (clean : '\n' ∉ piece.text) (isSite : piece.isSite = true) {owner : Nat} (owns : body.Owns owner)
    (stillOpen : owner ∈ opened) :
    ∃ grown, (body.addPiece piece >>= fun body => body.addSite owner) = .ok grown ∧
      grown.Sound opened ∧ body.Grows grown [piece] [] := by
  obtain ⟨boundary, found, opens, added⟩ := owns.addSite_ok clean
  obtain ⟨spans, ledger⟩ := sound.recorded
  have kept : (body.withSite piece owner boundary).marks = body.marks ++ [] := by
    rw [withSite_marks found, List.append_nil]
  refine ⟨_, added, ⟨?_, spans, ?_⟩, ⟨rfl, rfl, Array.toList_push, kept⟩⟩
  · rw [withSite, Array.toList_push, List.countP_append, ← sound.counted]
    simp [isSite]
  · rw [withSite, Array.toList_push, Array.toList_setIfInBounds, siteCount_eq sound, ← Array.length_toList]
    exact ledger.site isSite found opens stillOpen

/-- A piece of a line may be added: it has no line feed, and if it is a site, it belongs to an open
replacement. -/
structure Fits (body : Body) (opened : List Nat) (entry : Piece × Option Nat) : Prop where
  clean : '\n' ∉ entry.1.text
  isSite : entry.1.isSite = entry.2.isSome
  owned : ∀ owner, entry.2 = some owner → body.Owns owner ∧ owner ∈ opened

theorem Fits.grow {body grown : Body} {opened : List Nat} {entry : Piece × Option Nat}
    (fits : body.Fits opened entry) {pieces : List Piece} {marks : List Mark}
    (growth : body.Grows grown pieces marks) : grown.Fits opened entry where
  clean := fits.clean
  isSite := fits.isSite
  owned owner same := (fits.owned owner same).imp_left fun owns => owns.grow growth

theorem addLine_cons_site {body middle : Body} {piece : Piece} {owner : Nat}
    (added : (body.addPiece piece >>= fun body => body.addSite owner) = .ok middle)
    (rest : List (Piece × Option Nat)) :
    body.addLine ((piece, some owner) :: rest) = middle.addLine rest := by
  obtain ⟨bare, first, second⟩ := bind_ok added
  rw [addLine, first]
  change (bare.addSite owner >>= _) = _
  rw [second]
  rfl

/-- The pieces of a line are added. -/
theorem addLine_grows {body : Body} {opened : List Nat} (sound : body.Sound opened)
    {entries : List (Piece × Option Nat)} (fits : ∀ entry ∈ entries, body.Fits opened entry) :
    ∃ grown, body.addLine entries = .ok grown ∧ grown.Sound opened ∧
      body.Grows grown (entries.map Prod.fst) [] := by
  induction entries generalizing body with
  | nil => exact ⟨body, rfl, sound, Grows.refl body⟩
  | cons entry rest ih =>
      obtain ⟨clean, isSite, owned⟩ := fits entry List.mem_cons_self
      obtain ⟨piece, boundary?⟩ := entry
      obtain ⟨middle, added, soundNow, growth⟩ : ∃ middle,
          body.addLine ((piece, boundary?) :: rest) = middle.addLine rest ∧
            middle.Sound opened ∧ body.Grows middle [piece] [] := by
        cases boundary? with
        | none =>
            obtain ⟨middle, added, facts⟩ := addPiece_plain sound clean isSite
            exact ⟨middle, by rw [addLine, added]; rfl, facts⟩
        | some owner =>
            obtain ⟨owns, stillOpen⟩ := owned owner rfl
            obtain ⟨middle, added, facts⟩ := addPiece_site sound clean isSite owns stillOpen
            exact ⟨middle, addLine_cons_site added rest, facts⟩
      obtain ⟨grown, addedRest, soundGrown, more⟩ := ih soundNow fun other member =>
        (fits other (.tail _ member)).grow growth
      exact ⟨grown, added.trans addedRest, soundGrown, growth.trans more⟩

/-- A region without recorded sites opens. -/
theorem openRegion_grows {body : Body} {opened : List Nat} (sound : body.Sound opened) {region : Region}
    (blank : region.blank = region) :
    (body.openRegion region).Sound (body.boundaries.size :: opened) ∧
      body.Grows (body.openRegion region) [] [.opening region] := by
  obtain ⟨spans, ledger⟩ := sound.recorded
  refine ⟨⟨sound.counted, spans, ?_⟩, rfl, rfl, (List.append_nil _).symm, ?_⟩
  · have opening := ledger.opening blank
    rwa [← siteCount_eq sound, Array.length_toList, Array.length_toList, ← Array.toList_push] at opening
  · simp [openRegion, marks, Boundary.mark, blank]

/-- The innermost open region closes. -/
theorem closeRegion_grows {body : Body} {innermost : Nat} {outer : List Nat}
    (sound : body.Sound (innermost :: outer)) :
    body.closeRegion.Sound outer ∧ body.Grows body.closeRegion [] [.closing] := by
  obtain ⟨spans, ledger⟩ := sound.recorded
  refine ⟨⟨sound.counted, spans ++ [⟨innermost, body.boundaries.toList.length, outer.length⟩], ?_⟩,
    rfl, rfl, (List.append_nil _).symm, ?_⟩
  · have closing := ledger.closing
    rwa [← siteCount_eq sound, Array.length_toList, ← Array.toList_push] at closing
  · simp [closeRegion, marks, Boundary.mark]

/-- A body in which no region is open finishes as a sound template. -/
theorem Sound.template {body : Body} (sound : body.Sound []) (source : Text) :
    (body.template source).Sound where
  counted := sound.counted
  ledger := sound.recorded

end Stencil.Assembly.Body
