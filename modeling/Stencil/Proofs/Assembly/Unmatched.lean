/-
This file lists the openings of a body that no closing matches, and shows that between two lines they are the openings
of the directives that are open, each at the indentation of its line.
-/
import Mathlib.Data.List.Forall2
import Stencil.Proofs.Assembly.Coherent
import Stencil.Proofs.Assembly.Stops

namespace Stencil

namespace Mark

/-- The openings that are left without a closing behind some marks, of which the first has an index. Some openings are
left before these marks. All are given by their indices, outermost first, and a closing matches the last of them. -/
def unmatchedFrom (index : Nat) (opened : List Nat) : List Mark → List Nat
  | [] => opened
  | .opening _ :: rest => unmatchedFrom (index + 1) (opened ++ [index]) rest
  | .closing :: rest => unmatchedFrom (index + 1) opened.dropLast rest

/-- The indices of the openings that no closing matches, outermost first. -/
def unmatched (marks : List Mark) : List Nat := unmatchedFrom 0 [] marks

theorem unmatchedFrom_append (first second : List Mark) (index : Nat) (opened : List Nat) :
    unmatchedFrom index opened (first ++ second) =
      unmatchedFrom (index + first.length) (unmatchedFrom index opened first) second := by
  induction first generalizing index opened with
  | nil => rfl
  | cons mark rest ih =>
      rw [List.length_cons, Nat.add_comm rest.length 1, ← Nat.add_assoc]
      cases mark with
      | opening region => exact ih _ _
      | closing => exact ih _ _

theorem unmatched_opening (marks : List Mark) (region : Region) :
    unmatched (marks ++ [.opening region]) = unmatched marks ++ [marks.length] := by
  rw [unmatched, unmatchedFrom_append, Nat.zero_add]
  rfl

theorem unmatched_closing (marks : List Mark) : unmatched (marks ++ [.closing]) = (unmatched marks).dropLast := by
  rw [unmatched, unmatchedFrom_append]
  rfl

/-- The openings that a pairing leaves open are those that no closing matches. -/
theorem Paired.unmatched {marks : List Mark} {opened : List Nat} {spans : List RegionSpan}
    (paired : Paired marks opened spans) : Mark.unmatched marks = opened.reverse := by
  induction paired with
  | nil => rfl
  | opening region paired ih => rw [unmatched_opening, ih, List.reverse_cons]
  | closing paired ih => rw [unmatched_closing, ih, List.reverse_cons, List.dropLast_concat]

end Mark

/-- A directive that is open, with the column of the line that opened it. -/
structure Assembly.OpenDirective where
  column : Nat
  directive : Directive
  deriving Repr, DecidableEq

/-- A directive that a line opens. -/
def Line.openDirective (line : Line) (directive : Directive) : Assembly.OpenDirective :=
  ⟨line.indentation, directive⟩

namespace Assembly

/-- The directive has a region in the body. A definition has none. -/
def OpenDirective.hasRegion (entry : OpenDirective) : Bool := !entry.directive.isDefine

/-- The directive replaces matches. -/
def OpenDirective.isReplace (entry : OpenDirective) : Bool := entry.directive.instruction.keyword = .replace

/-- The directives of a frame with its column, in order. -/
def Frame.openDirectives (frame : Frame) : List OpenDirective :=
  frame.directives.map fun directive => ⟨frame.column, directive⟩

theorem Frame.openDirectives_map (frame : Frame) :
    frame.openDirectives.map OpenDirective.directive = frame.directives := by
  rw [openDirectives, List.map_map]
  exact List.map_id _

namespace Body

variable {body grown : Body} {entries : List OpenDirective} {entry : OpenDirective}

/-- The indices of the boundaries that open a region which is not closed, outermost first. -/
def unmatched (body : Body) : List Nat := Mark.unmatched body.marks

/-- The boundary with an index opens the region of a directive, at the column over the base. -/
def Begins (body : Body) (entry : OpenDirective) (index : Nat) : Prop :=
  ∃ region, entry.directive.region? (entry.column - body.base) = some region ∧
    body.marks[index]? = some (.opening region)

/-- The unmatched openings of a body are, in order, those of some directives. -/
def Aligned (body : Body) (entries : List OpenDirective) : Prop :=
  List.Forall₂ body.Begins (entries.filter OpenDirective.hasRegion) body.unmatched

/-- Boundaries stay where they are. -/
theorem Begins.grow {index : Nat} (begins : body.Begins entry index) (base : grown.base = body.base) {marks : List Mark}
    (more : grown.marks = body.marks ++ marks) : grown.Begins entry index := by
  obtain ⟨region, opens, mark⟩ := begins
  refine ⟨region, base ▸ opens, ?_⟩
  rw [more, List.getElem?_append_left (List.getElem?_eq_some_iff.1 mark).1, mark]

/-- A body with no other boundaries is aligned with the same directives. -/
theorem Aligned.grow (aligned : body.Aligned entries) {pieces : List Piece} (growth : body.Grows grown pieces []) :
    grown.Aligned entries := by
  have same : grown.unmatched = body.unmatched := by
    rw [unmatched, growth.marks, List.append_nil, unmatched]
  rw [Aligned, same]
  exact aligned.imp fun _ _ begins => begins.grow growth.base growth.marks

/-- A body without boundaries is aligned with directives that have no regions. -/
theorem aligned_empty (name : Text) (base : Nat) (none : entries.filter OpenDirective.hasRegion = []) :
    Aligned ⟨name, base, #[], #[], 0⟩ entries := by
  rw [Aligned, none]
  exact .nil

theorem openRegion_marks {region : Region} (blank : region.blank = region) :
    (body.openRegion region).marks = body.marks ++ [.opening region] := by
  simp [openRegion, marks, Boundary.mark, blank]

theorem closeRegion_marks : body.closeRegion.marks = body.marks ++ [.closing] := by
  simp [closeRegion, marks, Boundary.mark]

/-- A directive opens its region behind those of the others. -/
theorem Aligned.openRegion (aligned : body.Aligned entries) {region : Region}
    (opens : entry.directive.region? (entry.column - body.base) = some region) :
    (body.openRegion region).Aligned (entries ++ [entry]) := by
  have marks : (body.openRegion region).marks = body.marks ++ [.opening region] :=
    openRegion_marks (State.region?_blank opens)
  have hasRegion : entry.hasRegion = true := by
    rw [OpenDirective.hasRegion, ← entry.directive.region?_isSome (entry.column - body.base), opens]
    rfl
  have last : (body.openRegion region).Begins entry body.marks.length :=
    ⟨region, opens, by rw [marks, List.getElem?_concat_length]⟩
  rw [Aligned, unmatched, marks, Mark.unmatched_opening, List.filter_append, List.filter_singleton, hasRegion]
  exact List.rel_append (aligned.imp fun _ _ begins => begins.grow rfl marks) (.cons last .nil)

/-- The region of the last directive closes. -/
theorem Aligned.closeRegion (aligned : body.Aligned (entries ++ [entry]))
    (notDefine : entry.directive.isDefine = false) : body.closeRegion.Aligned entries := by
  have hasRegion : entry.hasRegion = true := by rw [OpenDirective.hasRegion, notDefine]; rfl
  rw [Aligned, List.filter_append, List.filter_singleton, hasRegion] at aligned
  have count := aligned.length_eq
  have others := List.forall₂_take (entries.filter OpenDirective.hasRegion).length aligned
  rw [List.take_left] at others
  have left : body.closeRegion.unmatched =
      body.unmatched.take (entries.filter OpenDirective.hasRegion).length := by
    rw [unmatched, closeRegion_marks, Mark.unmatched_closing, List.dropLast_eq_take]
    change body.unmatched.take (body.unmatched.length - 1) = _
    rw [← count, List.length_append]
    rfl
  rw [Aligned, left]
  exact others.imp fun _ _ begins => begins.grow rfl closeRegion_marks

end Body

namespace State

variable {source : Text} {state next : State} {line : Line} {isLast atEnd : Bool} {lines : List Line}
  {entries : List OpenDirective} {opened directives : List Directive} {directive : Directive}

/-- The open directives of all frames, outermost first. -/
def openDirectives (state : State) : List OpenDirective := state.frames.reverse.flatMap Frame.openDirectives

theorem openDirectives_map (state : State) : state.openDirectives.map OpenDirective.directive = state.opened := by
  rw [openDirectives, opened, List.map_flatMap]
  exact congrArg (List.flatMap · state.frames.reverse) (funext Frame.openDirectives_map)

theorem openDirectives_cons {frame : Frame} {frames : List Frame} (same : state.frames = frame :: frames) :
    state.openDirectives = { state with frames }.openDirectives ++ frame.openDirectives := by
  rw [openDirectives, openDirectives, same, List.reverse_cons, List.flatMap_append, List.flatMap_singleton]

/-- The body of a state, if there is one, is aligned with some directives. -/
def Tracks (state : State) (entries : List OpenDirective) : Prop :=
  ∀ body, state.body? = some body → body.Aligned entries

theorem Tracks.append_nil (tracks : state.Tracks entries) : state.Tracks (entries ++ []) := by
  rwa [List.append_nil]

section

variable (settled : state.Settled opened)

include settled

theorem Settled.addBlank_tracks (tracks : state.Tracks entries) (success : state.addBlank line isLast = .ok next) :
    next.Tracks entries := by
  cases settled with
  | outside outside _ =>
      cases (outside.addBlank_eq line isLast).symm.trans success
      exact tracks
  | inside stands =>
      obtain ⟨grown, rfl, _, growth⟩ := (stands.inside.addBlank_decided line isLast).effect_of_ok success
      rintro _ ⟨⟩
      exact (tracks _ stands.hasBody).grow growth

theorem Settled.addText_tracks (tracks : state.Tracks entries) (formed : line.Formed)
    (success : state.addText line isLast = .ok next) : next.Tracks entries := by
  cases settled with
  | outside outside _ =>
      cases (outside.addText_eq line isLast).symm.trans success
      exact tracks
  | inside stands =>
      obtain ⟨grown, rfl, _, growth⟩ := (stands.inside.addText_decided formed isLast).effect_of_ok success
      rintro _ ⟨⟩
      exact (tracks _ stands.hasBody).grow growth

end

/-- A directive that opens is tracked with the column of its line, which does not stand left of the base. -/
theorem Settled.enter_tracks (settled : state.Settled (entries.map OpenDirective.directive))
    (tracks : state.Tracks entries) (fits : ∀ body, state.body? = some body → body.base ≤ line.indentation)
    (success : state.enter line directive = .ok next) :
    next.Tracks (entries ++ [line.openDirective directive]) ∧
      ∀ body, next.body? = some body → body.base ≤ line.indentation := by
  cases settled with
  | inside stands =>
      have admitted := (stands.inside.enter_decided [] (fits _ stands.hasBody) directive).holds next success
      obtain ⟨notDefine, _⟩ := stands.inside.admitted_iff.1 admitted
      obtain ⟨region, opens, rfl⟩ := enter_region stands.hasBody notDefine success
      refine ⟨?_, ?_⟩ <;> rintro _ ⟨⟩
      · exact (tracks _ stands.hasBody).openRegion opens
      · have base := fits _ stands.hasBody
        exact base
  | outside outside none =>
      obtain ⟨name, instruction, _, rfl⟩ := (outside.enter_decided line directive).effect_of_ok success
      have noRegion : (line.openDirective directive).hasRegion = false := by
        simp [Line.openDirective, OpenDirective.hasRegion, Directive.isDefine, instruction, Instruction.keyword]
      rw [List.map_eq_nil_iff.1 none]
      refine ⟨?_, ?_⟩ <;> rintro _ ⟨⟩
      · exact Body.aligned_empty _ _ (List.filter_eq_nil_iff.2 (by simp [noRegion]))
      · exact Nat.le_refl _

/-- The directives of a line are tracked when they open. -/
theorem Settled.enterAll_tracks (settled : state.Settled (entries.map OpenDirective.directive))
    (tracks : state.Tracks entries) (fits : ∀ body, state.body? = some body → body.base ≤ line.indentation)
    (success : state.enterAll line directives = .ok next) :
    next.Tracks (entries ++ directives.map line.openDirective) := by
  induction directives generalizing state entries with
  | nil =>
      cases success
      exact tracks.append_nil
  | cons directive rest ih =>
      obtain ⟨middle, entered, others⟩ := bind_ok success
      obtain ⟨tracksMiddle, fitsMiddle⟩ := settled.enter_tracks tracks fits entered
      have single : state.enterAll line [directive] = .ok { middle with depth := middle.depth + 1 } := by
        rw [enterAll, entered]
        rfl
      have settledMiddle := (settled.enterAll_safe fits [directive]).effect _ single
      have settledNext : State.Settled { middle with depth := middle.depth + 1 }
          ((entries ++ [line.openDirective directive]).map OpenDirective.directive) := by
        rwa [List.map_append]
      have later := ih settledNext tracksMiddle fitsMiddle others
      rwa [List.append_assoc] at later

/-- The directive that opened last is tracked no more when it closes. -/
theorem Tracks.exit {entry : OpenDirective} (tracks : state.Tracks (entries ++ [entry]))
    (success : state.exit source entry.directive = .ok next) : next.Tracks entries := by
  intro grown after
  cases exit_ok success with
  | define => cases after
  | replace instruction _ hasBody | foreach instruction hasBody | insert instruction hasBody =>
      cases after
      exact (tracks _ hasBody).closeRegion (by simp [Directive.isDefine, instruction, Instruction.keyword])

/-- Directives that opened last are tracked no more when they close. -/
theorem Tracks.exitAll {more : List OpenDirective} (tracks : state.Tracks (entries ++ more))
    (success : state.exitAll source (more.map OpenDirective.directive).reverse = .ok next) : next.Tracks entries := by
  induction more using List.reverseRecOn generalizing state with
  | nil =>
      cases success
      rwa [List.append_nil] at tracks
  | append_singleton more entry ih =>
      rw [← List.append_assoc] at tracks
      rw [List.map_append, List.map_singleton, List.reverse_concat] at success
      obtain ⟨middle, _, exited, others⟩ := exitAll_cons_ok success
      have tracksLess : { state with depth := state.depth - 1 }.Tracks (entries ++ more ++ [entry]) := tracks
      exact ih (tracksLess.exit exited) others

/-- Behind a line the open directives are tracked. -/
theorem Coherent.step_tracks (coherent : state.Coherent) (tracks : state.Tracks state.openDirectives)
    (formed : line.Formed) (success : state.step source line isLast = .ok next) : next.Tracks next.openDirectives := by
  -- What leaves the frames as they are leaves the open directives as they are.
  have kept {other : State} (keeps : other.Keeps next) (tracked : next.Tracks other.openDirectives) :
      next.Tracks next.openDirectives := by
    rwa [openDirectives, keeps.frames]
  cases step_ok success with
  | empty _ added => exact kept (addBlank_keeps added) (coherent.addBlank_tracks tracks added)
  | regular _ added => exact kept (addText_keeps added) (coherent.addText_tracks tracks formed added)
  | opening _ added =>
      have settled := coherent.withFrames (⟨line.number, line.indentation, []⟩ :: state.frames)
      refine kept (addText_keeps added) (settled.addText_tracks ?_ formed added)
      rw [openDirectives_cons rfl]
      exact tracks.append_nil
  | @directives _ _ directives entered _ _ checked opens =>
      have fits := (coherent.checkIndentation_safe line).effect _ checked
      have settled : state.Settled (state.openDirectives.map OpenDirective.directive) := by
        rw [openDirectives_map]
        exact coherent
      have after := settled.enterAll_tracks tracks fits opens
      rw [openDirectives_cons rfl]
      change entered.Tracks (entered.openDirectives ++ _)
      rw [openDirectives, (enterAll_keeps opens).frames]
      exact after
  | @plainEnd _ frame frames _ held plain added =>
      rw [openDirectives_cons held, Frame.openDirectives, plain, List.map_nil, List.append_nil] at tracks
      exact kept (addText_keeps added) ((coherent.withFrames frames).addText_tracks tracks formed added)
  | @closing _ frame frames _ held _ _ exited =>
      rw [openDirectives_cons held] at tracks
      have tracksFrames : { state with frames }.Tracks
          ({ state with frames }.openDirectives ++ frame.openDirectives) := tracks
      have reversed := exited
      rw [← frame.openDirectives_map] at reversed
      exact kept (exitAll_keeps exited) (tracksFrames.exitAll reversed)

/-- Behind some lines a state is coherent, and the open directives are tracked. -/
theorem Coherent.run_tracks (coherent : state.Coherent) (tracks : state.Tracks state.openDirectives)
    (formed : ∀ line ∈ lines, line.Formed ∧ line.Sliced source)
    (success : state.run source atEnd lines = .ok next) : next.Coherent ∧ next.Tracks next.openDirectives :=
  coherent.run_invariant tracks formed Coherent.step_tracks success

end State

end Assembly

end Stencil
