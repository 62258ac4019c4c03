/-
This file holds the marker words of region lines and recognises them. What a recogniser gives as directive
text is a part of the line.
-/
import Stencil.Text.Basic

namespace Stencil

/-- Three words mark the region lines of a text. The two that open and close regions differ. -/
structure Markers where
  regionStart : Text := ['#', 'r', 'e', 'g', 'i', 'o', 'n']
  regionEnd : Text := ['#', 'e', 'n', 'd', 'r', 'e', 'g', 'i', 'o', 'n']
  template : Text := ['T', 'E', 'M', 'P', 'L', 'A', 'T', 'E']
  startIsWord : Text.isWord regionStart := by decide
  endIsWord : Text.isWord regionEnd := by decide
  templateIsWord : Text.isWord template := by decide
  startNeEnd : regionStart ≠ regionEnd := by decide
  deriving DecidableEq

/-- Directive text stands at a byte column of its line. -/
structure DirectiveText where
  column : Nat
  text : Text
  deriving Repr, DecidableEq

/-- A region line opens a region, with or without directive text, or closes one. -/
inductive RegionMark where
  | opening (directives? : Option DirectiveText)
  | closing
  deriving Repr, DecidableEq

/-- A recogniser tells the region lines among the lines of a text that are not blank. Directive text is a
part of its line. -/
structure Recogniser where
  mark? : Text → Option RegionMark
  within : ∀ line directives, mark? line = some (.opening (some directives)) →
    ∃ before after, line = before ++ directives.text ++ after ∧
      Text.byteSize before = directives.column

namespace Markers

/-- The default words. -/
def standard : Markers := {}

/-- Directive text follows the template word and a blank. It reaches to the last character of the
line that is not blank. -/
def directives? (markers : Markers) (line afterStart : Text) : Option DirectiveText :=
  match Text.dropWord? markers.template (Text.trimStart afterStart) with
  | none => none
  | some afterTemplate =>
      let body := Text.trimStart afterTemplate
      if Text.atWordEnd afterTemplate && !body.isEmpty then
        some ⟨Text.byteSize line - Text.byteSize body, Text.trimEnd body⟩
      else none

/-- A marker word counts at the start of a line, after blanks, when a blank or the end follows. -/
def recognise (markers : Markers) (line : Text) : Option RegionMark :=
  let content := Text.trimStart line
  match (Text.dropWord? markers.regionStart content).filter Text.atWordEnd with
  | some afterStart => some (.opening (markers.directives? line afterStart))
  | none =>
      match (Text.dropWord? markers.regionEnd content).filter Text.atWordEnd with
      | some _ => some .closing
      | none => none

/-- A text is the blanks before it and the text without them. -/
theorem trimStart_suffix (text : Text) : ∃ blanks, text = blanks ++ Text.trimStart text :=
  ⟨text.takeWhile Text.isBlank, List.takeWhile_append_dropWhile.symm⟩

/-- A text is the text without the blanks after it and these blanks. -/
theorem trimEnd_prefix (text : Text) : ∃ blanks, text = Text.trimEnd text ++ blanks := by
  refine ⟨(text.reverse.takeWhile Text.isBlank).reverse, ?_⟩
  rw [Text.trimEnd, ← List.reverse_append, List.takeWhile_append_dropWhile, List.reverse_reverse]

/-- A text that begins with a word is the word and the text after it. -/
theorem dropWord?_append {word text rest : Text} (found : Text.dropWord? word text = some rest) :
    text = word ++ rest := by
  fun_induction Text.dropWord? word text with
  | case1 text =>
      cases found
      rfl
  | case2 => cases found
  | case3 word character text ih => rw [ih found, List.cons_append]
  | case4 => cases found

/-- Directive text is a part of what follows the start word, and so of the line. -/
theorem directives?_within {markers : Markers} {line before afterStart : Text}
    (behind : line = before ++ afterStart) {directives : DirectiveText}
    (found : markers.directives? line afterStart = some directives) :
    ∃ before after, line = before ++ directives.text ++ after ∧
      Text.byteSize before = directives.column := by
  unfold directives? at found
  split at found
  · cases found
  · next afterTemplate template =>
      dsimp only at found
      split at found
      · cases found
        obtain ⟨blanks, first⟩ := trimStart_suffix afterStart
        obtain ⟨others, second⟩ := trimStart_suffix afterTemplate
        obtain ⟨last, third⟩ := trimEnd_prefix (Text.trimStart afterTemplate)
        have whole : line =
            (before ++ (blanks ++ (markers.template ++ others))) ++ Text.trimStart afterTemplate := by
          rw [behind, first, dropWord?_append template]
          simp only [List.append_assoc, ← second]
        refine ⟨before ++ (blanks ++ (markers.template ++ others)), last, ?_, ?_⟩
        · dsimp only
          rw [List.append_assoc, ← third]
          exact whole
        · have sizes := congrArg Text.byteSize whole
          rw [Text.byteSize_append] at sizes
          exact (Nat.sub_eq_of_eq_add sizes).symm
      · cases found

/-- Marker words recognise region lines. -/
def recogniser (markers : Markers) : Recogniser where
  mark? := markers.recognise
  within line directives found := by
    unfold recognise at found
    dsimp only at found
    split at found
    · next afterStart start =>
        obtain ⟨before, leading⟩ := trimStart_suffix line
        have word := dropWord?_append (Option.filter_eq_some_iff.1 start).1
        have behind : line = (before ++ markers.regionStart) ++ afterStart := by
          rw [List.append_assoc, ← word]
          exact leading
        exact directives?_within behind (RegionMark.opening.inj (Option.some.inj found))
    · split at found <;> cases found

end Markers

end Stencil
