/-
This file loads two texts whose lines are alike, and shows that they give alike templates.
-/
import Stencil.Proofs.Pairing.Assembly
import Stencil.Template.Load

namespace Stencil

/-- What a renderer has of a piece without its groups: the text, its place in the output line, and whether it
is a site. -/
structure Piece.Face where
  text : Text
  indentation? : Option Nat
  startsNewLine : Bool
  isSite : Bool
  deriving Repr, DecidableEq

def Piece.face (piece : Piece) : Face := ⟨piece.text, piece.indentation?, piece.startsNewLine, piece.isSite⟩

/-- What a renderer has of a template without its source. -/
structure Template.Face where
  boundaries : Array Boundary
  siteCount : Nat
  pieces : List Piece.Face
  deriving Repr, DecidableEq

def Template.face (template : Template) : Face :=
  ⟨template.boundaries, template.siteCount, template.pieces.toList.map Piece.face⟩

namespace Pairing

open Assembly

variable {pairing : Pairing} {recogniser : Recogniser}

theorem Sets.empty : pairing.Sets .empty .empty := .nil

/-- Two loads of templates start alike. -/
theorem States.multiple : pairing.States .multiple .multiple where
  mode := rfl
  body := .none
  finished := .empty
  frames := rfl
  replacements := rfl
  known := nofun
  depth := rfl
  insideInsert := rfl

/-- Two loads of one template start alike if there are no more columns. -/
theorem States.single (still : pairing.columns = 0) : pairing.States .single .single where
  mode := rfl
  body := .some ⟨rfl, by rw [still], rfl, rfl, .nil⟩
  finished := .empty
  frames := rfl
  replacements := rfl
  known := nofun
  depth := rfl
  insideInsert := rfl

/-- The lines of the two texts are alike, and the patterns of their directives are known. -/
structure Texts (pairing : Pairing) (recogniser : Recogniser) : Prop where
  lines : Matches (fun error halt => halt = error.indent pairing.columns pairing.blank)
    (List.Forall₂ pairing.Lines)
    (recogniser.lines pairing.source 0 (Text.byteSize pairing.source))
    (recogniser.lines pairing.other 0 (Text.byteSize pairing.other))
  known : ∀ lines, recogniser.lines pairing.source 0 (Text.byteSize pairing.source) = .ok lines →
    ∀ directive ∈ lines.flatMap Line.directives, ∀ pattern, directive.pattern? = some pattern →
      pairing.known pattern

theorem Texts.finalState_alike (texts : pairing.Texts recogniser) {state other : State}
    (alike : pairing.States state other) :
    pairing.Outcomes pairing.States
      (recogniser.finalState state pairing.source 0 (Text.byteSize pairing.source))
      (recogniser.finalState other pairing.other 0 (Text.byteSize pairing.other)) := by
  rw [Recogniser.finalState, Recogniser.finalState]
  refine (texts.lines.traced.mapError fun error halt same => ?_).bind fun lines pairs same => ?_
  · exact congrArg Stop.refused same
  · obtain ⟨same, classified, _⟩ := same
    rw [State.walk_eq_run, State.walk_eq_run]
    exact (alike.run_alike same (texts.known lines classified) true).bind fun _ _ alike =>
      alike.finish_alike

/-- Two alike texts without more columns give one template each, and these are alike. -/
theorem Texts.template_alike (texts : pairing.Texts recogniser) (still : pairing.columns = 0) :
    pairing.Outcomes pairing.Templates
      (recogniser.template pairing.source 0 (Text.byteSize pairing.source))
      (recogniser.template pairing.other 0 (Text.byteSize pairing.other)) := by
  rw [Recogniser.template, Recogniser.template]
  exact (texts.finalState_alike (.single still)).bind fun _ _ alike =>
    alike.body_alike.bind fun _ _ bodies => .ok bodies.template

/-- Two alike texts define alike templates. -/
theorem Texts.templates_alike (texts : pairing.Texts recogniser) :
    pairing.Outcomes pairing.Sets
      (recogniser.templates pairing.source 0 (Text.byteSize pairing.source))
      (recogniser.templates pairing.other 0 (Text.byteSize pairing.other)) := by
  rw [Recogniser.templates, Recogniser.templates]
  exact (texts.finalState_alike .multiple).bind fun _ _ alike => .ok alike.finished

/-- What alike templates have in common. -/
theorem Templates.face {template other : Template} (alike : pairing.Templates template other)
    (sites : ∀ groups groups', pairing.groups groups groups' → groups'.isSome = groups.isSome) :
    other.face = template.face := by
  have pieces : other.pieces.toList.map Piece.face = template.pieces.toList.map Piece.face :=
    map_eq_map alike.pieces fun piece pair same => by
      rw [Piece.face, Piece.face, same.text, same.indentation?, same.startsNewLine, Piece.isSite,
        Piece.isSite, sites _ _ same.groups]
  rw [Template.face, Template.face, alike.boundaries, alike.siteCount, pieces]

/-- What the templates of alike sets have in common, the sets have in common. -/
theorem Sets.map_eq {View : Type} {view : Template → View} {set other : TemplateSet}
    (alike : pairing.Sets set other)
    (same : ∀ template pair, pairing.Templates template pair → view pair = view template) :
    other.entries.map (fun entry => (entry.1, view entry.2)) =
      set.entries.map fun entry => (entry.1, view entry.2) :=
  map_eq_map alike fun entry pair related => by rw [related.1, same _ _ related.2]

end Pairing

end Stencil
