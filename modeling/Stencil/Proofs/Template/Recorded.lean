/-
This file says what the recorded sites of a finished template satisfy.
-/
import Stencil.Proofs.Template.Ledger

namespace Stencil

namespace Template

/-- The sites that the boundary with an index lists. -/
def sitesAt (template : Template) (index : Nat) : List Site :=
  Boundary.sitesAt template.boundaries.toList index

/-- The number of sites before the piece with an index. -/
def sitesBefore (template : Template) (index : Nat) : Nat :=
  Piece.sitesBefore template.pieces.toList index

/-- The piece with an index is a site. -/
def IsSiteAt (template : Template) (index : Nat) : Prop :=
  Piece.IsSiteAt template.pieces.toList index

/-- The sites of a template are recorded: they are counted, each is listed with its number at one
opening boundary and there once, and each opening boundary lists its sites in order and within its
region. -/
structure Recorded (template : Template) : Prop where
  /-- The sites are counted. -/
  counted : template.siteCount = template.pieces.toList.countP Piece.isSite
  /-- What is listed is a site, with the number of sites before it. -/
  listed : ∀ index, ∀ site ∈ template.sitesAt index,
    template.IsSiteAt site.piece ∧ site.number = template.sitesBefore site.piece
  /-- Each site is listed at one boundary, once. -/
  owned : ∀ piece, template.IsSiteAt piece → ∃ owner,
    ((template.sitesAt owner).countP fun site => site.piece = piece) = 1 ∧
      ∀ index, (∃ site ∈ template.sitesAt index, site.piece = piece) ↔ index = owner
  /-- The lists increase in both components. -/
  increasing : ∀ index, (template.sitesAt index).Pairwise fun first second =>
    first.piece < second.piece ∧ first.number < second.number
  /-- The sites of a region lie between its boundaries. -/
  enclosed : ∀ spans, template.regions? = some spans → ∀ span ∈ spans, ∀ opening closing,
    template.boundaries[span.opening]? = some opening →
    template.boundaries[span.closing]? = some closing → ∀ site ∈ opening.sites,
      (opening.piece ≤ site.piece ∧ site.piece < closing.piece) ∧
        opening.site ≤ site.number ∧ site.number < closing.site
  /-- Each boundary has the number of sites before it. -/
  numbered : ∀ boundary ∈ template.boundaries, boundary.site = template.sitesBefore boundary.piece

/-- The spans of a template are those that its boundaries pair up to. -/
theorem mem_regions?_iff {template : Template} {paired spans : List RegionSpan}
    (pairing : Mark.Paired (template.boundaries.toList.map Boundary.mark) [] paired)
    (success : template.regions? = some spans) (span : RegionSpan) : span ∈ spans ↔ span ∈ paired := by
  rw [regions?, pairing.pair? rfl, Option.map_some, Option.some.injEq] at success
  rw [← success]
  exact (List.mergeSort_perm paired _).mem_iff

end Template

/-- In an ordered list of sites a site stands once. -/
theorem Site.countP_eq_one {sites : List Site} {site : Site} (member : site ∈ sites)
    (increasing : sites.Pairwise fun first second => first.piece < second.piece) :
    (sites.countP fun other => other.piece = site.piece) = 1 := by
  induction sites with
  | nil => cases member
  | cons first rest ih =>
      obtain ⟨before, others⟩ := List.pairwise_cons.1 increasing
      rw [List.countP_cons]
      rcases List.mem_cons.1 member with rfl | behind
      · have none : (rest.countP fun other => other.piece = site.piece) = 0 := by
          rw [List.countP_eq_zero]
          intro other inside
          have := before other inside
          simp only [decide_eq_true_eq]
          omega
        rw [none, if_pos (decide_eq_true rfl)]
      · have apart : ¬decide (first.piece = site.piece) = true := by
          have := before site behind
          simp only [decide_eq_true_eq]
          omega
        rw [ih behind others, if_neg apart]

/-- When no region is open, the sites of a template are recorded. -/
theorem Ledger.recorded {template : Template} {spans : List RegionSpan}
    (ledger : Ledger template.boundaries.toList template.pieces.toList [] spans)
    (counted : template.siteCount = template.pieces.toList.countP Piece.isSite) :
    template.Recorded where
  counted := counted
  listed := ledger.listed
  owned piece isSite := by
    obtain ⟨owner, unique⟩ := ledger.owned piece isSite
    obtain ⟨site, member, rfl⟩ := (unique owner).2 rfl
    exact ⟨owner, Site.countP_eq_one member (ledger.increasing owner), unique⟩
  increasing index := by
    refine (List.Pairwise.and_mem.1 (ledger.increasing index)).imp ?_
    rintro first second ⟨inFirst, inSecond, before⟩
    obtain ⟨isSite, number⟩ := ledger.listed index first inFirst
    rw [number, (ledger.listed index second inSecond).2]
    exact ⟨before, isSite.sitesBefore_lt before⟩
  enclosed found success span member opening closing opens closes site inside := by
    have closed := (Template.mem_regions?_iff ledger.paired success span).1 member
    rw [← Array.getElem?_toList] at opens closes
    have among := List.mem_of_getElem? opens
    rw [← Boundary.sitesAt_eq opens] at inside
    obtain ⟨isSite, number⟩ := ledger.listed _ site inside
    have before := ledger.ended span closed closing closes site inside
    rw [Boundary.sitesAt_eq opens] at inside
    have behind := ledger.started opening among site inside
    rw [number, (ledger.placed opening among).2,
      (ledger.placed closing (List.mem_of_getElem? closes)).2]
    exact ⟨⟨behind, before⟩, Piece.sitesBefore_le _ behind, isSite.sitesBefore_lt before⟩
  numbered boundary member := (ledger.placed boundary (Array.mem_toList_iff.2 member)).2

/-- The sites of a sound template are counted, and its boundaries record them and leave no region
open. -/
structure Template.Sound (template : Template) : Prop where
  counted : template.siteCount = template.pieces.toList.countP Piece.isSite
  ledger : ∃ spans, Ledger template.boundaries.toList template.pieces.toList [] spans

theorem Template.Sound.recorded {template : Template} (sound : template.Sound) : template.Recorded := by
  obtain ⟨spans, ledger⟩ := sound.ledger
  exact ledger.recorded sound.counted

/-- The boundaries of a sound template stand in the order of its pieces and of its sites, and none
stands behind all of them. -/
theorem Template.Sound.boundaries_ordered {template : Template} (sound : template.Sound) :
    (template.boundaries.toList.Pairwise fun first second =>
      first.piece ≤ second.piece ∧ first.site ≤ second.site) ∧
    ∀ boundary ∈ template.boundaries,
      boundary.piece ≤ template.pieces.size ∧ boundary.site ≤ template.siteCount := by
  obtain ⟨spans, ledger⟩ := sound.ledger
  constructor
  · refine (List.Pairwise.and_mem.1 (List.pairwise_map.1 ledger.ordered)).imp ?_
    rintro first second ⟨inFirst, inSecond, before⟩
    rw [(ledger.placed first inFirst).2, (ledger.placed second inSecond).2]
    exact ⟨before, Piece.sitesBefore_le _ before⟩
  · intro boundary member
    obtain ⟨inside, number⟩ := ledger.placed boundary (Array.mem_toList_iff.2 member)
    rw [number, sound.counted, ← Piece.sitesBefore_length]
    exact ⟨inside, Piece.sitesBefore_le _ inside⟩

end Stencil
