/-
This file holds the patterns of region lines and the expressions that they denote.
-/
import Stencil.Markers
import Stencil.Proofs.Pattern.Denoted
import Stencil.Proofs.Text.Word

namespace Stencil

namespace Pattern

/-- Blanks, as many as there are. -/
def blanks : Expr := .repetition 0 none true (.set Unicode.Property.whiteSpace)

/-- Blanks, as many as there are, but one at least. -/
def gap : Expr := .repetition 1 none true (.set Unicode.Property.whiteSpace)

/-- A blank or the end of the text. -/
def wordEnd : Expr := .alternation [.set Unicode.Property.whiteSpace, .look .stop]

/-- The first group reaches to the last character of a line that is not blank. -/
def lastText : Expr :=
  .capture 1 (.concatenation
    [.repetition 0 none true (.set lineCharacters), .set Unicode.Property.whiteSpace.complement])

end Pattern

open Pattern Pattern.Read

namespace Markers

variable (markers : Markers)

/-- The pattern of lines that open a region. -/
def startText : Text :=
  "^\\s*".toList ++ (escaped markers.regionStart ++ ("(?:\\s+".toList ++ (escaped markers.template ++
    "\\s+(?P<directives>.*\\S))?(?:\\s|$)".toList)))

/-- The pattern of lines that close a region. -/
def endText : Text := "^\\s*".toList ++ (escaped markers.regionEnd ++ "(?:\\s|$)".toList)

example : Markers.standard.startText =
    "^\\s*\\#region(?:\\s+TEMPLATE\\s+(?P<directives>.*\\S))?(?:\\s|$)".toList := by decide

/-- The expression of the template word and the directive text. -/
def templateExpr : Expr := .concatenation [gap, .literal markers.template, gap, lastText]

/-- The expression of lines that open a region. -/
def startExpr : Expr :=
  .concatenation [.look .start, blanks, .literal markers.regionStart,
    .repetition 0 (some 1) true markers.templateExpr, wordEnd]

/-- The expression of lines that close a region. -/
def endExpr : Expr := .concatenation [.look .start, blanks, .literal markers.regionEnd, wordEnd]

end Markers

namespace Pattern.Read

variable {done parts : List Tree} {rest : Text} {names : List Text} {groups levels : Nat}

/-- Blanks as they are written. -/
def blanksTree : Tree := .repetition 0 none true (.named ⟨.space, false⟩)

/-- Blanks, but one at least, as they are written. -/
def gapTree : Tree := .repetition 1 none true (.named ⟨.space, false⟩)

/-- A blank or the end of the text as it is written. -/
def wordEndTree : Tree := .group [] (.alternation [.named ⟨.space, false⟩, .assertion .lineEnd])

/-- The first group as it is written. -/
def lastTextTree : Tree := .capture 1 (.concatenation [.repetition 0 none true .dot, .named ⟨.space, true⟩])

theorem advances_space : Advances levels ⟨done, parts, '\\' :: 's' :: rest, names, groups⟩
    ⟨done, .named ⟨.space, false⟩ :: parts, rest, names, groups⟩ :=
  advances_fixed ['\\', 's'] (.named ⟨.space, false⟩) (by simp [fixedParts])

theorem advances_blanks (greedy : rest.head? ≠ some '?') : Advances levels
    ⟨done, parts, '\\' :: 's' :: '*' :: rest, names, groups⟩ ⟨done, blanksTree :: parts, rest, names, groups⟩ :=
  advances_space.trans (advances_operator '*' 0 none (by simp [operators]) nofun greedy)

theorem advances_gap (greedy : rest.head? ≠ some '?') : Advances levels
    ⟨done, parts, '\\' :: 's' :: '+' :: rest, names, groups⟩ ⟨done, gapTree :: parts, rest, names, groups⟩ :=
  advances_space.trans (advances_operator '+' 1 none (by simp [operators]) nofun greedy)

theorem advances_wordEnd : Advances (levels + 1)
    ⟨done, parts, '(' :: '?' :: ':' :: '\\' :: 's' :: '|' :: '$' :: ')' :: rest, names, groups⟩
    ⟨done, wordEndTree :: parts, rest, names, groups⟩ := by
  have last : Advances levels ⟨[.named ⟨.space, false⟩], [], '$' :: ')' :: rest, names, groups⟩
      ⟨[.named ⟨.space, false⟩], [.assertion .lineEnd], ')' :: rest, names, groups⟩ :=
    advances_fixed ['$'] (.assertion .lineEnd) (by simp [fixedParts])
  exact Advances.group (advances_space.trans (advances_bar.trans last))

/-- The text of the first group. -/
def lastTextWritten (rest : Text) : Text :=
  '(' :: '?' :: 'P' :: '<' :: ("directives".toList ++ '>' :: '.' :: '*' :: '\\' :: 'S' :: ')' :: rest)

theorem advances_lastText : Advances (levels + 1) ⟨done, parts, lastTextWritten rest, [], 0⟩
    ⟨done, lastTextTree :: parts, rest, ["directives".toList], 1⟩ := by
  have small : ∀ letter ∈ 'd' :: "irectives".toList, letter.isLower = true := List.all_eq_true.1 rfl
  have dot : Advances levels ⟨[], [], '.' :: '*' :: '\\' :: 'S' :: ')' :: rest, ["directives".toList], 1⟩
      ⟨[], [.dot], '*' :: '\\' :: 'S' :: ')' :: rest, ["directives".toList], 1⟩ :=
    advances_fixed ['.'] .dot (by simp [fixedParts])
  have star := dot.trans (advances_operator '*' 0 none (by simp [operators]) (fun _ same => by cases same) (by simp))
  have inside := star.trans (advances_fixed ['\\', 'S'] (.named ⟨.space, true⟩) (by simp [fixedParts]))
  exact Advances.capture small rfl inside

/-- A word is not written with a question mark in front. -/
theorem head?_escaped {word : Text} (nonempty : word ≠ []) : (escaped word ++ rest).head? ≠ some '?' := by
  obtain ⟨character, word, rfl⟩ := List.exists_cons_of_ne_nil nonempty
  rw [escaped, List.flatMap_cons]
  split
  · simp
  · next plain =>
      intro same
      obtain rfl := Option.some.inj same
      exact plain rfl

/-- The template word and the directive text as they are written. -/
def templateTree (template : Text) : Tree :=
  .repetition 0 (some 1) true
    (.group [] (.concatenation (gapTree :: (literals template ++ [gapTree, lastTextTree]))))

theorem advances_template {template : Text} (nonempty : template ≠ []) (greedy : rest.head? ≠ some '?') :
    Advances (levels + 2)
      ⟨done, parts, '(' :: '?' :: ':' :: '\\' :: 's' :: '+' ::
        (escaped template ++ '\\' :: 's' :: '+' :: lastTextWritten (')' :: '?' :: rest)), [], 0⟩
      ⟨done, templateTree template :: parts, rest, ["directives".toList], 1⟩ := by
  have inside : Advances (levels + 1)
      ⟨[], [], '\\' :: 's' :: '+' ::
        (escaped template ++ '\\' :: 's' :: '+' :: lastTextWritten (')' :: '?' :: rest)), [], 0⟩
      ⟨[], lastTextTree :: gapTree :: ((literals template).reverse ++ [gapTree]), ')' :: '?' :: rest,
        ["directives".toList], 1⟩ :=
    (advances_gap (head?_escaped nonempty)).trans ((advances_escaped template).trans
      ((advances_gap (by simp [lastTextWritten])).trans advances_lastText))
  have same : sequenceOf (lastTextTree :: gapTree :: ((literals template).reverse ++ [gapTree])) =
      .concatenation (gapTree :: (literals template ++ [gapTree, lastTextTree])) := by
    simp [sequenceOf]
  refine Advances.trans (Advances.group inside) ?_
  rw [same]
  exact advances_operator '?' 0 (some 1) (by simp [operators]) nofun greedy

end Pattern.Read

namespace Markers

variable (markers : Markers)

/-- What lines that open a region are read as. -/
def startTree : Tree :=
  .concatenation (.assertion .lineStart :: blanksTree ::
    (literals markers.regionStart ++ [templateTree markers.template, wordEndTree]))

/-- What lines that close a region are read as. -/
def endTree : Tree :=
  .concatenation (.assertion .lineStart :: blanksTree :: (literals markers.regionEnd ++ [wordEndTree]))

theorem startTree_read : Tree.read? markers.startText = some markers.startTree := by
  have written : markers.startText = '^' :: '\\' :: 's' :: '*' :: (escaped markers.regionStart ++
      '(' :: '?' :: ':' :: '\\' :: 's' :: '+' :: (escaped markers.template ++ '\\' :: 's' :: '+' ::
        lastTextWritten (')' :: '?' :: "(?:\\s|$)".toList))) := rfl
  have whole : Advances nestLimit ⟨[], [], markers.startText, [], 0⟩ ⟨[],
      wordEndTree :: templateTree markers.template :: ((literals markers.regionStart).reverse ++
        [blanksTree, .assertion .lineStart]), [], ["directives".toList], 1⟩ := by
    rw [written]
    refine (advances_fixed ['^'] (.assertion .lineStart) (by simp [fixedParts])).trans ?_
    refine (advances_blanks (head?_escaped (Text.ne_nil_of_isWord markers.startIsWord))).trans ?_
    refine (advances_escaped markers.regionStart).trans ?_
    refine (advances_template (Text.ne_nil_of_isWord markers.templateIsWord) (by simp)).trans ?_
    exact advances_wordEnd
  have same : sequenceOf (wordEndTree :: templateTree markers.template :: ((literals markers.regionStart).reverse ++
      [blanksTree, .assertion .lineStart])) = markers.startTree := by
    simp [sequenceOf, startTree]
  have inside : Tree.depthAll (literals markers.template ++ [gapTree, lastTextTree]) = 3 := Tree.depthAll_literals _ _
  have outside : Tree.depthAll (literals markers.regionStart ++ [templateTree markers.template, wordEndTree]) = 6 := by
    simp only [Tree.depthAll_literals, templateTree, Tree.depth, Tree.depthAll, inside]
    rfl
  have shallow : markers.startTree.depth ≤ nestLimit := by
    simp only [startTree, Tree.depth, Tree.depthAll, outside]
    decide
  rw [← same] at shallow ⊢
  exact whole.tree shallow

theorem endTree_read : Tree.read? markers.endText = some markers.endTree := by
  have written : markers.endText =
      '^' :: '\\' :: 's' :: '*' :: (escaped markers.regionEnd ++ "(?:\\s|$)".toList) := rfl
  have whole : Advances nestLimit ⟨[], [], markers.endText, [], 0⟩ ⟨[],
      wordEndTree :: ((literals markers.regionEnd).reverse ++ [blanksTree, .assertion .lineStart]), [], [], 0⟩ := by
    rw [written]
    refine (advances_fixed ['^'] (.assertion .lineStart) (by simp [fixedParts])).trans ?_
    refine (advances_blanks (head?_escaped (Text.ne_nil_of_isWord markers.endIsWord))).trans ?_
    exact (advances_escaped markers.regionEnd).trans advances_wordEnd
  have same : sequenceOf (wordEndTree :: ((literals markers.regionEnd).reverse ++
      [blanksTree, .assertion .lineStart])) = markers.endTree := by
    rw [sequenceOf_many (by simp), endTree]
    simp
  have inside : Tree.depthAll (literals markers.regionEnd ++ [wordEndTree]) = 2 := Tree.depthAll_literals _ _
  have shallow : markers.endTree.depth ≤ nestLimit := by
    simp only [endTree, Tree.depth, Tree.depthAll, inside]
    decide
  rw [← same] at shallow ⊢
  exact whole.tree shallow

theorem blanks_denoted : blanksTree.Denotes blanks := .repetition .space (Expr.set_filled _) (.inl rfl)

theorem gap_denoted : gapTree.Denotes gap := .repetition .space (Expr.set_filled _) (.inl rfl)

theorem wordEnd_denoted : wordEndTree.Denotes wordEnd := .group (.alternation (.cons .space (.cons .lineEnd .nil)))

theorem lastText_denoted : lastTextTree.Denotes lastText :=
  .capture 1 (.concatenation (.cons (.repetition .dot (Expr.set_filled _) (.inl rfl)) (.cons .nonspace .nil)))

theorem template_denoted :
    (templateTree markers.template).Denotes (.repetition 0 (some 1) true markers.templateExpr) := by
  have denote : List.Forall₂ Tree.Denotes (gapTree :: (literals markers.template ++ [gapTree, lastTextTree]))
      (gap :: (Expr.characters markers.template ++ [gap, lastText])) :=
    .cons gap_denoted (Tree.Denotes.word _ (.cons gap_denoted (.cons lastText_denoted .nil)))
  have joined : Expr.sequence ([gap] ++ (Expr.characters markers.template ++ [gap, lastText])) = markers.templateExpr :=
    Expr.sequence_word (Text.ne_nil_of_isWord markers.templateIsWord) (by simp [gap, Expr.isApart, Expr.isFlat])
      (by simp [gap, lastText, Expr.isApart, Expr.isFlat]) (List.cons_ne_nil _ _)
  have filled : Expr.mostLength? markers.templateExpr ≠ some 0 := by
    simp [templateExpr, Expr.mostLength?, Expr.mostLengthAll?, gap, Expr.addLength]
  refine .repetition (.group ?_) filled (.inr ⟨rfl, rfl⟩)
  rw [← joined]
  exact .concatenation denote

theorem startExpr_read : Expr.read? markers.startText = some markers.startExpr := by
  have denote : List.Forall₂ Tree.Denotes (.assertion .lineStart :: blanksTree ::
      (literals markers.regionStart ++ [templateTree markers.template, wordEndTree]))
      (.look .start :: blanks :: (Expr.characters markers.regionStart ++
        [.repetition 0 (some 1) true markers.templateExpr, wordEnd])) :=
    .cons .lineStart (.cons blanks_denoted
      (Tree.Denotes.word _ (.cons markers.template_denoted (.cons wordEnd_denoted .nil))))
  have joined : Expr.sequence ([.look .start, blanks] ++ (Expr.characters markers.regionStart ++
      [.repetition 0 (some 1) true markers.templateExpr, wordEnd])) = markers.startExpr :=
    Expr.sequence_word (Text.ne_nil_of_isWord markers.startIsWord) (by simp [blanks, Expr.isApart, Expr.isFlat])
      (by simp [wordEnd, Expr.isApart, Expr.isFlat]) (List.cons_ne_nil _ _)
  have denotes : markers.startTree.Denotes markers.startExpr := by
    rw [← joined]
    exact .concatenation denote
  exact denotes.read? markers.startTree_read

theorem endExpr_read : Expr.read? markers.endText = some markers.endExpr := by
  have denote : List.Forall₂ Tree.Denotes (.assertion .lineStart :: blanksTree ::
      (literals markers.regionEnd ++ [wordEndTree]))
      (.look .start :: blanks :: (Expr.characters markers.regionEnd ++ [wordEnd])) :=
    .cons .lineStart (.cons blanks_denoted (Tree.Denotes.word _ (.cons wordEnd_denoted .nil)))
  have joined : Expr.sequence ([.look .start, blanks] ++ (Expr.characters markers.regionEnd ++ [wordEnd])) =
      markers.endExpr :=
    Expr.sequence_word (Text.ne_nil_of_isWord markers.endIsWord) (by simp [blanks, Expr.isApart, Expr.isFlat])
      (by simp [wordEnd, Expr.isApart, Expr.isFlat]) (List.cons_ne_nil _ _)
  have denotes : markers.endTree.Denotes markers.endExpr := by
    rw [← joined]
    exact .concatenation denote
  exact denotes.read? markers.endTree_read

end Markers

end Stencil
