/-
This file shows that a loaded template renders to its kept lines.
-/
import Stencil.Proofs.Load.Basic
import Stencil.Proofs.Outline.Definitions

namespace Stencil

/-- A piece renders to the spaces of its indentation, its part of the source, and a line feed if it ends a
line. -/
def Piece.render? (source : Text) (piece : Piece) : Option Text :=
  (Text.slice? source piece.start piece.stop).map fun text =>
    List.replicate (piece.indentation?.getD 0) ' ' ++ text ++ if piece.startsNewLine then ['\n'] else []

/-- A template renders to what its pieces render to, in order. -/
def Template.render? (template : Template) : Option Text :=
  (template.pieces.toList.mapM (Piece.render? template.source)).map List.flatten

/-- A piece that lies in the source renders to its own text. -/
theorem Piece.render?_eq {source : Text} {piece : Piece}
    (lies : Text.LiesAt source piece.start piece.text) : piece.render? source = some piece.rendered := by
  rw [render?, Piece.stop, lies.slice?]
  rfl

/-- Pieces that all render do so together. -/
theorem Piece.mapM_render? {source : Text} {pieces : List Piece}
    (lie : ∀ piece ∈ pieces, Text.LiesAt source piece.start piece.text) :
    pieces.mapM (Piece.render? source) = some (pieces.map Piece.rendered) := by
  induction pieces with
  | nil => rfl
  | cons piece rest ih =>
      rw [List.mapM_cons, Piece.render?_eq (lie piece List.mem_cons_self),
        ih fun other member => lie other (.tail _ member)]
      rfl

/-- A template that is made of admitted lines renders to their texts. -/
theorem Template.Made.render? {source : Text} {lines : List Placed} {base : Nat} {template : Template}
    {mode : Assembly.Mode} (made : template.Made source lines base)
    (admitted : ∀ placed ∈ lines, placed.Admitted mode base)
    (formed : ∀ placed ∈ lines, placed.line.Formed ∧
      Text.LiesAt source placed.line.start placed.line.text) :
    template.render? = some (lines.flatMap (Placed.text base)) := by
  have rendered : ∀ placed ∈ lines,
      (placed.pieces base).flatMap Piece.rendered = placed.text base := fun placed member =>
    placed.pieces_rendered (formed placed member).1 (admitted placed member).indented
  rw [Template.render?, made.source, Piece.mapM_render? (made.pieces_lie formed), Option.map_some,
    Option.some.injEq, ← List.flatMap_def, made.pieces, List.flatMap_assoc, List.flatMap_def,
    List.flatMap_def, List.map_congr_left rendered]

/-- A kept line of an admitted template begins with the spaces of the base. -/
theorem Placed.Admitted.take_base {mode : Assembly.Mode} {base : Nat} {placed : Placed}
    (admitted : placed.Admitted mode base) (formed : placed.line.Formed) (kept : placed.isKept = true) :
    placed.line.text.take base = List.replicate base ' ' := by
  obtain ⟨notEmpty, checked⟩ := Placed.isChecked_of_isKept kept
  obtain ⟨content, _, _, same⟩ := formed.indented notEmpty
  have inside := admitted.indented checked
  rw [same, List.take_append_of_le_length (by simpa using inside), List.take_replicate,
    Nat.min_eq_left inside]

/-- What a line adds to the text of a template does not depend on the patterns that are active. -/
theorem Placed.text_congr {first second : Placed} (line : first.line = second.line)
    (isLast : first.isLast = second.isLast) (inserting : first.inserting = second.inserting)
    (own : first.own.isEmpty = second.own.isEmpty) (base : Nat) : first.text base = second.text base := by
  have kept : first.isKept = second.isKept := by rw [isKept, isKept, line, inserting, own]
  rw [text, text, feed, feed, kept, line, isLast]

/-- A loaded template renders to the kept lines of its range without the base, and to the line feeds of its
blank lines. Each template of a set renders so to the lines inside its definition. -/
theorem render_kept_lines (markers : Markers) (source : Text) (start stop : Nat) :
    (∀ template, Template.load markers source start stop = .ok template →
      ∃ outline : Outline, Line.ofRange markers source start stop = .ok outline.lines ∧
        template.render? = some ((outline.placed [] true).flatMap (Placed.text 0))) ∧
    (∀ set, TemplateSet.load markers source start stop = .ok set →
      ∃ outline : Outline, Line.ofRange markers source start stop = .ok outline.lines ∧
        ∀ entry ∈ set.entries, ∃ block ∈ outline.definitions, block.name? = some entry.1 ∧
          entry.2.render? = some ((block.inside.placed block.directives false).flatMap
            (Placed.text block.opening.indentation)) ∧
          ∀ placed ∈ block.inside.placed block.directives false, placed.isKept = true →
            placed.line.text.take block.opening.indentation =
              List.replicate block.opening.indentation ' ') ∧
    (∀ lines, Line.ofRange markers source start stop = .ok lines →
      ∀ line ∈ lines, Text.slice? source line.start line.stop = some line.text) ∧
    ∀ (base : Nat) (first second : Placed), first.line = second.line → first.isLast = second.isLast →
      first.inserting = second.inserting → first.own.isEmpty = second.own.isEmpty →
      first.text base = second.text base := by
  refine ⟨fun template success => ?_, fun set success => ?_, fun lines success line member => ?_,
    fun base first second line isLast inserting own => Placed.text_congr line isLast inserting own base⟩
  · obtain ⟨outline, classified, admitted, made⟩ := Template.exists_made success
    refine ⟨outline, classified, made.render? admitted fun placed member => ?_⟩
    refine Line.ofRange_formed classified placed.line ?_
    rw [← outline.placed_map_line [] true]
    exact List.mem_map_of_mem member
  · obtain ⟨outline, classified, found⟩ := TemplateSet.exists_made success
    refine ⟨outline, classified, fun entry member => ?_⟩
    obtain ⟨block, among, named, admitted, made⟩ := found entry member
    have formed : ∀ placed ∈ block.placed, placed.line.Formed ∧
        Text.LiesAt source placed.line.start placed.line.text := by
      intro placed inside
      refine Line.ofRange_formed classified placed.line ?_
      refine (Outline.mem_blocks (Outline.mem_definitions among).1).2.2 placed.line ?_
      rw [← block.placed_map_line]
      exact List.mem_map_of_mem inside
    refine ⟨block, among, named, ?_, fun placed inside kept => ?_⟩
    · rw [← Outline.definition_text among]
      exact made.render? admitted formed
    · have within : placed ∈ block.placed := .tail _ (List.mem_append_left _ inside)
      exact (admitted placed within).take_base (formed placed within).1 kept
  · exact (Line.ofRange_formed success line member).2.slice?

/-- A text with a replacement around a plain region, a blank line and an insertion. -/
def mixedRegions : Text :=
  ("#region TEMPLATE REPLACE(`a`, $x)\n  bab\n\n  #region plain\n#region TEMPLATE INSERT($y)\nz\n" ++
    "#endregion\n  #endregion\n#endregion\nend\n").toList

/-- A text that defines an indented template. -/
def indentedDefinition : Text :=
  "  #region TEMPLATE DEFINE(\"t\") REPLACE(`a`, $x)\n    bab\n\n   c\n  #endregion\n".toList

theorem render_kept_lines_mixed :
    (∃ template, Template.load .standard mixedRegions 0 126 = .ok template ∧
      template.render? = some "  bab\n\n  #region plain\n  #endregion\nend".toList ∧
      ∃ outline : Outline, Line.ofRange .standard mixedRegions 0 126 = .ok outline.lines ∧
        template.render? = some ((outline.placed [] true).flatMap (Placed.text 0))) ∧
    ∃ set, TemplateSet.load .standard indentedDefinition 0 75 = .ok set ∧
      (set.entries.map fun entry => entry.2.render?) = [some "  bab\n\n c\n".toList] ∧
      ∃ outline : Outline, Line.ofRange .standard indentedDefinition 0 75 = .ok outline.lines ∧
        ∀ entry ∈ set.entries, ∃ block ∈ outline.definitions, block.name? = some entry.1 ∧
          entry.2.render? = some ((block.inside.placed block.directives false).flatMap
            (Placed.text block.opening.indentation)) := by
  have single : (Template.load .standard mixedRegions 0 126).toOption.map Template.render? =
      some (some "  bab\n\n  #region plain\n  #endregion\nend".toList) := by decide +kernel
  have multiple : (TemplateSet.load .standard indentedDefinition 0 75).toOption.map
      (fun set => set.entries.map fun entry => entry.2.render?) =
        some [some "  bab\n\n c\n".toList] := by decide +kernel
  obtain ⟨template, loaded, rendered⟩ := exists_ok single
  obtain ⟨set, loadedSet, renderedSet⟩ := exists_ok multiple
  obtain ⟨outline, classified, made⟩ := (render_kept_lines _ _ _ _).2.1 set loadedSet
  refine ⟨⟨template, loaded, rendered, (render_kept_lines _ _ _ _).1 template loaded⟩,
    set, loadedSet, renderedSet, outline, classified, fun entry member => ?_⟩
  obtain ⟨block, among, named, text, _⟩ := made entry member
  exact ⟨block, among, named, text⟩

end Stencil
