/-
This file pairs the loads of two texts: it says when pieces, bodies, templates, states and lines of them are
alike.
-/
import Mathlib.Data.List.Forall2
import Stencil.Assembly.Step
import Stencil.Proofs.Matches
import Stencil.Proofs.Shift.Basic

namespace Stencil

open Assembly

/-- A pairing has two texts, of which the second has some more columns before its lines, but not before the
blank ones. It says which groups of sites are alike, and which patterns are known to find the same in both. -/
structure Pairing where
  source : Text
  other : Text
  columns : Nat
  blank : Nat → Bool
  groups : Option (List (Option Span)) → Option (List (Option Span)) → Prop
  plain : groups none none
  known : Pattern → Prop

namespace Pairing

variable (pairing : Pairing)

/-- Lists of related members have a common view if their members do. -/
theorem map_eq_map {First Second View : Type} {related : First → Second → Prop} {firsts : List First}
    {seconds : List Second} {view : First → View} {look : Second → View}
    (alike : List.Forall₂ related firsts seconds)
    (same : ∀ first second, related first second → look second = view first) :
    seconds.map look = firsts.map view := by
  induction alike with
  | nil => rfl
  | cons first _ ih => rw [List.map_cons, List.map_cons, ih, same _ _ first]

/-- Of related members one may use that they are members. -/
theorem forall₂_of_mem {First Second : Type} {related later : First → Second → Prop} {firsts : List First}
    {seconds : List Second} (alike : List.Forall₂ related firsts seconds)
    (implies : ∀ first ∈ firsts, ∀ second ∈ seconds, related first second → later first second) :
    List.Forall₂ later firsts seconds := by
  obtain ⟨length, each⟩ := List.forall₂_iff_zip.1 alike
  refine List.forall₂_iff_zip.2 ⟨length, fun member => ?_⟩
  obtain ⟨first, second⟩ := List.of_mem_zip member
  exact implies _ first _ second (each member)

/-- Two pieces have the same text in the same line of output, and their groups are alike. -/
structure Pieces (piece other : Piece) : Prop where
  text : other.text = piece.text
  indentation? : other.indentation? = piece.indentation?
  startsNewLine : other.startsNewLine = piece.startsNewLine
  groups : pairing.groups piece.groups? other.groups?

/-- Two bodies differ in their bases by the columns, and in what alike pieces differ in. -/
structure Bodies (body other : Body) : Prop where
  name : other.name = body.name
  base : other.base = body.base + pairing.columns
  boundaries : other.boundaries = body.boundaries
  siteCount : other.siteCount = body.siteCount
  pieces : List.Forall₂ pairing.Pieces body.pieces.toList other.pieces.toList

/-- Two templates of the two sources differ in what alike pieces differ in. -/
structure Templates (template other : Template) : Prop where
  source : template.source = pairing.source
  otherSource : other.source = pairing.other
  boundaries : other.boundaries = template.boundaries
  siteCount : other.siteCount = template.siteCount
  pieces : List.Forall₂ pairing.Pieces template.pieces.toList other.pieces.toList

/-- Two sets have the same names with alike templates. -/
def Sets (set other : TemplateSet) : Prop :=
  List.Forall₂ (fun entry pair => pair.1 = entry.1 ∧ pairing.Templates entry.2 pair.2)
    set.entries other.entries

/-- Two states are at the same place of the two loads. -/
structure States (state other : State) : Prop where
  mode : other.mode = state.mode
  body : Option.Rel pairing.Bodies state.body? other.body?
  finished : pairing.Sets state.finished other.finished
  frames : other.frames = state.frames.map (Frame.indent pairing.columns)
  replacements : other.replacements = state.replacements
  known : ∀ replacement ∈ state.replacements, pairing.known replacement.pattern
  depth : other.depth = state.depth
  insideInsert : other.insideInsert = state.insideInsert

/-- Two outcomes match if the second has the fault of the first with the columns, or an alike result. -/
abbrev Outcomes {First Second : Type} (results : First → Second → Prop) :
    Except Stop First → Except Stop Second → Prop :=
  Matches (fun stop halt => halt = stop.indent pairing.columns pairing.blank) results

/-- Two lines are of one kind, and their directives differ by the columns. -/
inductive Kinds (line other : Line) : Prop where
  | empty (kind : line.kind = .empty) (otherKind : other.kind = .empty)
  | regular (kind : line.kind = .regular) (otherKind : other.kind = .regular)
  | opening (kind : line.kind = .opening) (otherKind : other.kind = .opening)
  | closing (kind : line.kind = .closing) (otherKind : other.kind = .closing)
  | directives {start otherStart : Nat} {tokens otherTokens : List Token}
      (kind : line.kind = .directives start tokens)
      (otherKind : other.kind = .directives otherStart otherTokens)
      (parsed : Directive.parse other.number other.start otherTokens =
        bimap (Stop.indent pairing.columns pairing.blank) (List.map (Directive.indent pairing.columns))
          (Directive.parse line.number line.start tokens))

/-- A shifted line is of the same kind. -/
theorem kinds_shifted (right : Nat) {line : Line}
    (behind : ∀ start tokens, line.kind = .directives start tokens →
      ∀ token ∈ tokens, line.start ≤ token.start) :
    pairing.Kinds line (Shift.line ⟨right, pairing.columns⟩ line) := by
  cases kind : line.kind with
  | empty => exact .empty kind (congrArg (Shift.kind ⟨right, _⟩) kind)
  | opening => exact .opening kind (congrArg (Shift.kind ⟨right, _⟩) kind)
  | closing => exact .closing kind (congrArg (Shift.kind ⟨right, _⟩) kind)
  | regular => exact .regular kind (congrArg (Shift.kind ⟨right, _⟩) kind)
  | directives start tokens =>
      exact .directives kind (congrArg (Shift.kind ⟨right, _⟩) kind)
        (Shift.parse_shifted ⟨right, _⟩ pairing.blank line.number line.start (behind start tokens kind))

/-- Two lines have one number, are of one kind, and are cut into alike pieces. -/
structure Lines (line other : Line) : Prop where
  number : other.number = line.number
  kind : pairing.Kinds line other
  indentation : line.kind ≠ .empty → other.indentation = line.indentation + pairing.columns
  segments : line.kind ≠ .empty → ∀ replacements : List Replacement,
    (∀ replacement ∈ replacements, pairing.known replacement.pattern) →
    (Segment.ofLine replacements other.text.toArray other.indentation).map Segment.boundary? =
        (Segment.ofLine replacements line.text.toArray line.indentation).map Segment.boundary? ∧
      List.Forall₂ pairing.Pieces
        ((Segment.ofLine replacements line.text.toArray line.indentation).map (Segment.piece line))
        ((Segment.ofLine replacements other.text.toArray other.indentation).map (Segment.piece other))

end Pairing

end Stencil
