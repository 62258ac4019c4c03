/-
This file relates the sites that the boundaries of a template list to the pieces that are sites, while the
template is assembled.
-/
import Stencil.Proofs.Template.Mark

namespace Stencil

namespace Boundary

/-- The boundary with one more site, if it opens a replacement. -/
def record (site : Site) : Boundary → Boundary
  | .opening piece number (.replace field flags sites) =>
      .opening piece number (.replace field flags (sites.push site))
  | boundary => boundary

/-- The boundary opens a replacement. -/
def opensReplacement : Boundary → Bool
  | .opening _ _ (.replace _ _ _) => true
  | .opening _ _ (.foreach _ _) | .opening _ _ (.insert _ _) | .closing _ _ => false

theorem record_piece (site : Site) (boundary : Boundary) :
    (boundary.record site).piece = boundary.piece := by
  fun_cases record site boundary <;> rfl

theorem record_site (site : Site) (boundary : Boundary) :
    (boundary.record site).site = boundary.site := by
  fun_cases record site boundary <;> rfl

theorem record_mark (site : Site) (boundary : Boundary) :
    (boundary.record site).mark = boundary.mark := by
  fun_cases record site boundary <;> rfl

theorem record_sites (site : Site) {boundary : Boundary} (opens : boundary.opensReplacement = true) :
    (boundary.record site).sites = boundary.sites ++ [site] := by
  fun_cases opensReplacement boundary with
  | case1 => simp [record, sites]
  | case2 | case3 | case4 => cases opens

/-- A boundary gives way to another without a change of what both have in common. -/
theorem map_set {Value : Type} (read : Boundary → Value) {boundaries : List Boundary} {index : Nat}
    {boundary other : Boundary} (found : boundaries[index]? = some boundary)
    (same : read other = read boundary) : (boundaries.set index other).map read = boundaries.map read := by
  apply List.ext_getElem?
  intro position
  rw [List.getElem?_map, List.getElem?_map, List.getElem?_set]
  by_cases here : index = position
  · subst here
    rw [if_pos rfl, if_pos (List.getElem?_eq_some_iff.1 found).1, found, Option.map_some,
      Option.map_some, same]
  · rw [if_neg here]

/-- The recorded site is listed last at its boundary and nowhere else. -/
theorem sitesAt_set_record {boundaries : List Boundary} {owner : Nat} {boundary : Boundary}
    (found : boundaries[owner]? = some boundary) (opens : boundary.opensReplacement = true)
    (site : Site) (index : Nat) :
    sitesAt (boundaries.set owner (boundary.record site)) index =
      sitesAt boundaries index ++ if index = owner then [site] else [] := by
  have inside := (List.getElem?_eq_some_iff.1 found).1
  by_cases here : index = owner
  · subst here
    rw [sitesAt_eq (List.getElem?_set_self inside), sitesAt_eq found, record_sites site opens, if_pos rfl]
  · rw [if_neg here, List.append_nil, sitesAt, sitesAt, List.getElem?_set_ne (Ne.symm here)]

/-- What is listed after a site is recorded was listed before or is that site. -/
theorem mem_sitesAt_set_record {boundaries : List Boundary} {owner : Nat} {boundary : Boundary}
    (found : boundaries[owner]? = some boundary) (opens : boundary.opensReplacement = true)
    (site other : Site) (index : Nat) :
    other ∈ sitesAt (boundaries.set owner (boundary.record site)) index ↔
      other ∈ sitesAt boundaries index ∨ index = owner ∧ other = site := by
  rw [sitesAt_set_record found opens, List.mem_append]
  by_cases here : index = owner
  · simp [here]
  · simp [here]

end Boundary

/-- A ledger is what boundaries record of the sites among some pieces. Some of the openings are open,
innermost first, and the spans of the others have closed. -/
structure Ledger (boundaries : List Boundary) (pieces : List Piece) (opened : List Nat)
    (spans : List RegionSpan) : Prop where
  /-- A boundary knows its place among the pieces and among the sites. -/
  placed : ∀ boundary ∈ boundaries, boundary.piece ≤ pieces.length ∧
    boundary.site = Piece.sitesBefore pieces boundary.piece
  /-- The boundaries stand in the order of the pieces. -/
  ordered : (boundaries.map Boundary.piece).Pairwise (· ≤ ·)
  /-- What is listed is a site with its number. -/
  listed : ∀ index, ∀ site ∈ Boundary.sitesAt boundaries index,
    Piece.IsSiteAt pieces site.piece ∧ site.number = Piece.sitesBefore pieces site.piece
  /-- A site is listed at one boundary. -/
  owned : ∀ piece, Piece.IsSiteAt pieces piece → ∃ owner, ∀ index,
    (∃ site ∈ Boundary.sitesAt boundaries index, site.piece = piece) ↔ index = owner
  /-- Each boundary lists its sites in order. -/
  increasing : ∀ index, (Boundary.sitesAt boundaries index).Pairwise
    fun first second => first.piece < second.piece
  /-- The sites of a boundary stand behind it. -/
  started : ∀ boundary ∈ boundaries, ∀ site ∈ boundary.sites, boundary.piece ≤ site.piece
  /-- The boundaries pair up to the openings that are open. -/
  paired : Mark.Paired (boundaries.map Boundary.mark) opened spans
  /-- The sites of a closed region stand before its end. -/
  ended : ∀ span ∈ spans, ∀ boundary, boundaries[span.closing]? = some boundary →
    ∀ site ∈ Boundary.sitesAt boundaries span.opening, site.piece < boundary.piece

namespace Ledger

variable {boundaries : List Boundary} {pieces : List Piece} {opened : List Nat} {spans : List RegionSpan}

/-- Without boundaries there are no sites. -/
theorem empty : Ledger [] [] [] [] where
  placed := by simp
  ordered := .nil
  listed := by simp [Boundary.sitesAt]
  owned piece site := absurd site.lt (Nat.not_lt_zero piece)
  increasing index := by simp [Boundary.sitesAt]
  started := by simp
  paired := .nil
  ended := by simp

/-- A boundary's place does not move when a piece is added. -/
theorem placed_append (ledger : Ledger boundaries pieces opened spans) (piece : Piece)
    {boundary : Boundary} (member : boundary ∈ boundaries) :
    boundary.piece ≤ (pieces ++ [piece]).length ∧
      boundary.site = Piece.sitesBefore (pieces ++ [piece]) boundary.piece := by
  obtain ⟨inside, number⟩ := ledger.placed boundary member
  rw [Piece.sitesBefore_append inside, List.length_append]
  exact ⟨by omega, number⟩

/-- A listed site stays a site with its number when a piece is added. -/
theorem listed_append (ledger : Ledger boundaries pieces opened spans) (piece : Piece) {index : Nat}
    {site : Site} (member : site ∈ Boundary.sitesAt boundaries index) :
    Piece.IsSiteAt (pieces ++ [piece]) site.piece ∧
      site.number = Piece.sitesBefore (pieces ++ [piece]) site.piece := by
  obtain ⟨isSite, number⟩ := ledger.listed index site member
  rw [Piece.sitesBefore_append (Nat.le_of_lt isSite.lt)]
  exact ⟨Piece.isSiteAt_append_singleton.2 (.inl isSite), number⟩

/-- A piece that is no site is not listed. -/
theorem plain (ledger : Ledger boundaries pieces opened spans) {piece : Piece}
    (notSite : piece.isSite = false) : Ledger boundaries (pieces ++ [piece]) opened spans where
  placed _ member := ledger.placed_append piece member
  ordered := ledger.ordered
  listed _ _ member := ledger.listed_append piece member
  owned index isSite := by
    rw [Piece.isSiteAt_append_singleton, notSite] at isSite
    exact ledger.owned index (isSite.resolve_right fun last => Bool.false_ne_true last.2)
  increasing := ledger.increasing
  started := ledger.started
  paired := ledger.paired
  ended := ledger.ended

/-- When a site is recorded, each site is still listed at one boundary. -/
theorem owned_record (ledger : Ledger boundaries pieces opened spans) (piece : Piece) {owner : Nat}
    {boundary : Boundary} (found : boundaries[owner]? = some boundary)
    (opens : boundary.opensReplacement = true) (number : Nat) {index : Nat}
    (isSite : Piece.IsSiteAt (pieces ++ [piece]) index) :
    ∃ holder, ∀ place, (∃ site ∈ Boundary.sitesAt
      (boundaries.set owner (boundary.record ⟨pieces.length, number⟩)) place, site.piece = index) ↔
        place = holder := by
  have listing (place : Nat) (site : Site) :=
    Boundary.mem_sitesAt_set_record found opens ⟨pieces.length, number⟩ site place
  rcases Piece.isSiteAt_append_singleton.1 isSite with old | ⟨rfl, _⟩
  · obtain ⟨holder, unique⟩ := ledger.owned index old
    refine ⟨holder, fun place => Iff.trans ⟨?_, ?_⟩ (unique place)⟩
    · rintro ⟨site, member, rfl⟩
      rcases (listing _ _).1 member with older | ⟨_, rfl⟩
      · exact ⟨site, older, rfl⟩
      · exact absurd old.lt (Nat.lt_irrefl _)
    · rintro ⟨site, member, same⟩
      exact ⟨site, (listing _ _).2 (.inl member), same⟩
  · refine ⟨owner, fun place => ⟨?_, ?_⟩⟩
    · rintro ⟨site, member, same⟩
      rcases (listing _ _).1 member with older | ⟨here, _⟩
      · exact absurd (ledger.listed place site older).1.lt (same ▸ Nat.lt_irrefl _)
      · exact here
    · intro here
      exact ⟨_, (listing _ _).2 (.inr ⟨here, rfl⟩), rfl⟩

/-- When a site is recorded at an open boundary, the regions that have closed do not change. -/
theorem ended_record (ledger : Ledger boundaries pieces opened spans) {owner : Nat} {boundary : Boundary}
    (found : boundaries[owner]? = some boundary) (opens : boundary.opensReplacement = true)
    (stillOpen : owner ∈ opened) (recorded : Site) {span : RegionSpan} (member : span ∈ spans)
    {last : Boundary} (located : (boundaries.set owner (boundary.record recorded))[span.closing]? = some last)
    {site : Site}
    (inside : site ∈ Boundary.sitesAt (boundaries.set owner (boundary.record recorded)) span.opening) :
    site.piece < last.piece := by
  have apart : span.opening ≠ owner := by
    intro same
    exact (ledger.paired.closed member).1 (same ▸ stillOpen)
  have older := ((Boundary.mem_sitesAt_set_record found opens _ _ _).1 inside).resolve_right
    fun here => apart here.1
  rw [List.getElem?_set] at located
  split at located
  · next same =>
      split at located
      · cases located
        rw [Boundary.record_piece]
        exact ledger.ended span member boundary (same ▸ found) site older
      · cases located
  · exact ledger.ended span member last located site older

/-- A piece that is a site is listed at the open boundary of its replacement. -/
theorem site (ledger : Ledger boundaries pieces opened spans) {piece : Piece} (isSite : piece.isSite = true)
    {owner : Nat} {boundary : Boundary} (found : boundaries[owner]? = some boundary)
    (opens : boundary.opensReplacement = true) (stillOpen : owner ∈ opened) :
    Ledger (boundaries.set owner
      (boundary.record ⟨pieces.length, Piece.sitesBefore pieces pieces.length⟩))
      (pieces ++ [piece]) opened spans := by
  have among := List.mem_of_getElem? found
  have listing (index : Nat) (other : Site) := Boundary.mem_sitesAt_set_record found opens
    ⟨pieces.length, Piece.sitesBefore pieces pieces.length⟩ other index
  refine
    { placed := fun other member => ?placed
      ordered := ?ordered
      listed := fun index other member => ?listed
      owned := fun index isSiteAt => ?owned
      increasing := fun index => ?increasing
      started := fun other member => ?started
      paired := ?paired
      ended := fun span member other located site inside => ?ended }
  case placed =>
    rcases List.mem_or_eq_of_mem_set member with old | rfl
    · exact ledger.placed_append piece old
    · rw [Boundary.record_piece, Boundary.record_site]
      exact ledger.placed_append piece among
  case ordered =>
    rw [Boundary.map_set _ found (Boundary.record_piece _ _)]
    exact ledger.ordered
  case listed =>
    rcases (listing _ _).1 member with old | ⟨_, rfl⟩
    · exact ledger.listed_append piece old
    · rw [Piece.sitesBefore_append (Nat.le_refl _)]
      exact ⟨Piece.isSiteAt_append_singleton.2 (.inr ⟨rfl, isSite⟩), rfl⟩
  case owned =>
    exact ledger.owned_record piece found opens _ isSiteAt
  case increasing =>
    rw [Boundary.sitesAt_set_record found opens]
    refine List.pairwise_append.2 ⟨ledger.increasing index, ?_, fun first member second last => ?_⟩
    · split
      · exact List.pairwise_singleton _ _
      · exact .nil
    · split at last
      · rw [List.mem_singleton.1 last]
        exact (ledger.listed index first member).1.lt
      · cases last
  case started =>
    rcases List.mem_or_eq_of_mem_set member with old | rfl
    · exact ledger.started other old
    · intro site inside
      rw [Boundary.record_sites _ opens] at inside
      rw [Boundary.record_piece]
      rcases List.mem_append.1 inside with older | last
      · exact ledger.started boundary among site older
      · rw [List.mem_singleton.1 last]
        exact (ledger.placed boundary among).1
  case paired =>
    rw [Boundary.map_set _ found (Boundary.record_mark _ _)]
    exact ledger.paired
  case ended =>
    exact ledger.ended_record found opens stillOpen _ member located inside

/-- A boundary without sites may stand behind all pieces, if the pairing goes on with it. -/
theorem push (ledger : Ledger boundaries pieces opened spans) {boundary : Boundary}
    (blank : boundary.sites = []) (last : boundary.piece = pieces.length)
    (number : boundary.site = Piece.sitesBefore pieces pieces.length) {openedNow : List Nat}
    {spansNow : List RegionSpan}
    (paired : Mark.Paired ((boundaries ++ [boundary]).map Boundary.mark) openedNow spansNow)
    (known : ∀ span ∈ spansNow, span ∈ spans ∨ span.closing = boundaries.length) :
    Ledger (boundaries ++ [boundary]) pieces openedNow spansNow where
  placed other member := by
    rcases List.mem_append.1 member with old | new
    · exact ledger.placed other old
    · rw [List.mem_singleton.1 new, last]
      exact ⟨Nat.le_refl _, number⟩
  ordered := by
    rw [List.map_append, List.pairwise_append]
    refine ⟨ledger.ordered, List.pairwise_singleton _ _, fun first old second new => ?_⟩
    obtain ⟨other, member, rfl⟩ := List.mem_map.1 old
    rw [List.mem_singleton.1 new, last]
    exact (ledger.placed other member).1
  listed index site member := by
    rw [Boundary.sitesAt_append_singleton blank] at member
    exact ledger.listed index site member
  owned piece isSite := by
    obtain ⟨owner, unique⟩ := ledger.owned piece isSite
    refine ⟨owner, fun index => ?_⟩
    rw [Boundary.sitesAt_append_singleton blank]
    exact unique index
  increasing index := by
    rw [Boundary.sitesAt_append_singleton blank]
    exact ledger.increasing index
  started other member site inside := by
    rcases List.mem_append.1 member with old | new
    · exact ledger.started other old site inside
    · rw [List.mem_singleton.1 new, blank] at inside
      cases inside
  paired := paired
  ended span member other located site inside := by
    rw [Boundary.sitesAt_append_singleton blank] at inside
    rcases known span member with old | new
    · have before := (ledger.paired.closed old).2.2
      rw [List.length_map] at before
      rw [List.getElem?_append_left before] at located
      exact ledger.ended span old other located site inside
    · rw [new, List.getElem?_concat_length] at located
      cases located
      rw [last]
      exact (ledger.listed _ site inside).1.lt

/-- A region without recorded sites opens behind all pieces. -/
theorem opening (ledger : Ledger boundaries pieces opened spans) {region : Region}
    (blank : region.blank = region) :
    Ledger (boundaries ++ [.opening pieces.length (Piece.sitesBefore pieces pieces.length) region]) pieces
      (boundaries.length :: opened) spans := by
  refine ledger.push ?_ rfl rfl ?_ fun span member => .inl member
  · cases region with
    | foreach | insert => rfl
    | replace field flags sites =>
        injection blank with _ _ none
        rw [← none]
        rfl
  · have paired := ledger.paired.opening region
    rw [List.length_map] at paired
    rwa [List.map_append, List.map_singleton, Boundary.mark, blank]

/-- The innermost open region closes behind all pieces. -/
theorem closing {innermost : Nat} {outer : List Nat}
    (ledger : Ledger boundaries pieces (innermost :: outer) spans) :
    Ledger (boundaries ++ [.closing pieces.length (Piece.sitesBefore pieces pieces.length)]) pieces outer
      (spans ++ [⟨innermost, boundaries.length, outer.length⟩]) := by
  refine ledger.push rfl rfl rfl ?_ fun span member => ?_
  · have paired := ledger.paired.closing
    rw [List.length_map] at paired
    rwa [List.map_append, List.map_singleton, Boundary.mark]
  · refine (List.mem_append.1 member).imp_right fun last => ?_
    rw [List.mem_singleton.1 last]

end Ledger

end Stencil
