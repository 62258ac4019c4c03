/-
This file relates the state inside a body to the directives that are open there, and shows what lines of
text do to the body.
-/
import Stencil.Proofs.Assembly.Growth
import Stencil.Proofs.Decided
import Stencil.Proofs.Line.Pieces

namespace Stencil.Assembly.State

/-- The state is inside a body, where some directives are open, outermost first. Those that are no
definitions have opened the boundaries with some indices, innermost first. -/
structure Inside (state : State) (mode : Mode) (body : Body) (opened : List Directive)
    (indices : List Nat) : Prop where
  hasMode : state.mode = mode
  hasBody : state.body? = some body
  depth : state.depth = opened.length
  /-- A text that defines templates has a body inside its definitions only. -/
  defined : mode = .multiple → opened ≠ []
  inserting : state.insideInsert = opened.any Directive.isInsert
  patterns : state.replacements.map Replacement.pattern = opened.filterMap Directive.pattern?
  owned : ∀ replacement ∈ state.replacements,
    body.Owns replacement.boundary ∧ replacement.boundary ∈ indices
  sound : body.Sound indices

/-- The next state differs in its body only, which has grown by some pieces and some marks. -/
def Adds (state : State) (body : Body) (indices : List Nat) (pieces : List Piece) (marks : List Mark)
    (next : State) : Prop :=
  ∃ grown, next = state.withBody grown ∧ grown.Sound indices ∧ body.Grows grown pieces marks

section

variable {state next : State} {mode : Mode} {body grown : Body} {opened : List Directive}
  {indices : List Nat}

theorem Inside.grow (inside : state.Inside mode body opened indices) {pieces : List Piece}
    {marks : List Mark} (sound : grown.Sound indices) (growth : body.Grows grown pieces marks) :
    (state.withBody grown).Inside mode grown opened indices :=
  { inside with
    hasBody := rfl
    owned := fun replacement member =>
      (inside.owned replacement member).imp_left fun owns => owns.grow growth
    sound }

/-- The frames do not matter inside a body. -/
theorem Inside.withFrames (inside : state.Inside mode body opened indices) (frames : List Frame) :
    { state with frames }.Inside mode body opened indices :=
  { inside with }

/-- Inside a body no definition is expected. -/
theorem Inside.expectsDefine (inside : state.Inside mode body opened indices) :
    state.expectsDefine = false := by
  rw [State.expectsDefine, inside.hasMode, inside.depth]
  cases mode with
  | single => rfl
  | multiple => simpa using inside.defined rfl

theorem Inside.body_eq (inside : state.Inside mode body opened indices) : state.body = .ok body := by
  rw [State.body, inside.hasBody]

theorem Adds.refl (inside : state.Inside mode body opened indices) :
    state.Adds body indices [] [] state := by
  refine ⟨body, ?_, inside.sound, .refl body⟩
  rw [withBody, ← inside.hasBody]

theorem Adds.after {pieces more : List Piece} {marks others : List Mark}
    (adds : (state.withBody grown).Adds grown indices more others next)
    (growth : body.Grows grown pieces marks) :
    state.Adds body indices (pieces ++ more) (marks ++ others) next := by
  obtain ⟨last, rfl, sound, later⟩ := adds
  exact ⟨last, rfl, sound, growth.trans later⟩

/-- A line stands at an indentation over the base of the body unless it stands left of it. -/
theorem Inside.relativeIndentation_decided (inside : state.Inside mode body opened indices)
    (line : Line) :
    Decided (state.relativeIndentation line) (body.base ≤ line.indentation)
      fun indentation => indentation = line.indentation - body.base := by
  have base : (state.body?.map Body.base).getD 0 = body.base := by rw [inside.hasBody]; rfl
  by_cases fits : body.base ≤ line.indentation
  · exact .of_ok (by rw [relativeIndentation, base, if_pos fits]) fits rfl
  · exact .of_error (by rw [relativeIndentation, base, if_neg fits]) fits

theorem Inside.checkIndentation_decided (inside : state.Inside mode body opened indices) (line : Line) :
    Decided (state.checkIndentation line) (body.base ≤ line.indentation)
      fun _ => body.base ≤ line.indentation := by
  have checked : state.checkIndentation line = (state.relativeIndentation line >>= fun _ => .ok ()) := by
    rw [checkIndentation, inside.hasBody]
    rfl
  rw [checked]
  apply (inside.relativeIndentation_decided line).given.followed
  intro indentation facts
  exact ⟨(), rfl, facts.1⟩

/-- A blank line adds a line break, unless it is the last line of the text. -/
theorem Inside.addBlank_decided (inside : state.Inside mode body opened indices) (line : Line)
    (isLast : Bool) :
    Decided (state.addBlank line isLast) True
      (state.Adds body indices (if isLast then [] else [⟨line.start, [], none, true, none⟩]) []) := by
  cases isLast with
  | true => exact .of_ok rfl trivial (.refl inside)
  | false =>
      obtain ⟨grown, added, sound, growth⟩ :=
        @Body.addPiece_plain _ _ inside.sound ⟨line.start, [], none, true, none⟩ List.not_mem_nil rfl
      have success : state.addBlank line false = .ok (state.withBody grown) := by
        rw [addBlank, if_neg Bool.false_ne_true, inside.hasBody]
        dsimp only
        rw [added]
        rfl
      exact .of_ok success trivial ⟨grown, rfl, sound, growth⟩

/-- The pieces of a line fit the body, each with the boundary of its replacement. -/
theorem Inside.fits (inside : state.Inside mode body opened indices) {line : Line}
    (formed : line.Formed) (isLast : Bool) {entry : Piece × Option Nat}
    (member : entry ∈ (line.pieces (state.replacements.map Replacement.pattern) body.base isLast).zip
      ((Segment.ofLine state.replacements line.text.toArray line.indentation).map Segment.boundary?)) :
    body.Fits indices entry where
  clean := line.pieces_noFeed formed (List.of_mem_zip member).1
  isSite := by
    obtain ⟨index, bound, same⟩ := List.mem_iff_getElem.1 member
    have sites := congrArg (·[index]?)
      (line.pieces_map_isSite state.replacements body.base isLast)
    rw [List.length_zip, Nat.lt_min] at bound
    rw [List.getElem_zip] at same
    rw [List.getElem?_map, List.getElem?_map, List.getElem?_eq_getElem bound.1,
      List.getElem?_eq_getElem bound.2, Option.map_some, Option.map_some, Option.some.injEq] at sites
    rw [← same]
    exact sites
  owned owner same := by
    obtain ⟨segment, among, owns⟩ := List.mem_map.1 (List.of_mem_zip member).2
    obtain ⟨replacement, known, rfl⟩ := Segment.ofLine_boundary among (owns.trans same)
    exact inside.owned replacement known

/-- A line of text adds its pieces, unless an insertion is open. It must not stand left of the base. -/
theorem Inside.addText_decided (inside : state.Inside mode body opened indices) {line : Line}
    (formed : line.Formed) (isLast : Bool) :
    Decided (state.addText line isLast)
      (opened.any Directive.isInsert = false → body.base ≤ line.indentation)
      (state.Adds body indices (if opened.any Directive.isInsert then []
        else line.pieces (opened.filterMap Directive.pattern?) body.base isLast) []) := by
  rw [← inside.inserting, ← inside.patterns]
  cases inserting : state.insideInsert with
  | true =>
      have success : state.addText line isLast = .ok state := by
        rw [addText, inside.hasBody]
        dsimp only
        rw [if_pos inserting]
      exact .of_ok success (fun absurdly => by cases absurdly) (.refl inside)
  | false =>
      have added : state.addText line isLast =
          (state.relativeIndentation line >>= fun indentation =>
            (body.addLine ((if isLast then Assembly.startLine indentation
                ((Segment.ofLine state.replacements line.text.toArray line.indentation).map
                  (Segment.piece line))
              else Assembly.endLine (Assembly.startLine indentation
                ((Segment.ofLine state.replacements line.text.toArray line.indentation).map
                  (Segment.piece line)))).zip
              ((Segment.ofLine state.replacements line.text.toArray line.indentation).map
                Segment.boundary?)) >>= fun grown => .ok (state.withBody grown))) := by
        rw [addText, inside.hasBody]
        dsimp only
        rw [if_neg (by rw [inserting]; exact Bool.false_ne_true)]
        rfl
      rw [added]
      refine Decided.congr ?_ (forall_prop_of_true rfl)
      apply (inside.relativeIndentation_decided line).followed
      rintro _ rfl
      rw [← line.pieces_of_replacements state.replacements body.base isLast]
      obtain ⟨grown, success, sound, growth⟩ := Body.addLine_grows inside.sound
        fun entry member => inside.fits formed isLast member
      rw [List.map_fst_zip] at growth
      · rw [success, if_neg Bool.false_ne_true]
        exact ⟨_, rfl, grown, rfl, sound, growth⟩
      · have sizes := congrArg List.length
          (line.pieces_map_isSite state.replacements body.base isLast)
        rw [List.length_map, List.length_map] at sizes
        exact Nat.le_of_eq sizes

end

end Stencil.Assembly.State
