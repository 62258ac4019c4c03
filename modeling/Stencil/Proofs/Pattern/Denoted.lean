/-
This file says which expressions patterns denote while no mode is changed.
-/
import Stencil.Proofs.Pattern.Written

namespace Stencil.Pattern

namespace Expr

/-- The literals of the characters of a word. -/
def characters (word : Text) : List Expr := word.map fun character => .literal [character]

/-- A part is kept where a sequence is flattened. -/
def isFlat : Expr → Bool
  | .empty | .concatenation _ => false
  | .literal _ | .set _ | .look _ | .repetition .. | .capture .. | .alternation _ => true

/-- A part is kept where neighbouring literals are joined as well. -/
def isApart : Expr → Bool
  | .literal _ => false
  | part => part.isFlat

variable {before after parts : List Expr} {word : Text}

theorem flattenParts_flat (flat : ∀ part ∈ parts, part.isFlat = true) : flattenParts parts = parts := by
  induction parts with
  | nil => rfl
  | cons part parts ih =>
      obtain ⟨first, others⟩ := List.forall_mem_cons.1 flat
      have same : flattenParts (part :: parts) = part :: flattenParts parts := by
        cases part with
        | empty | concatenation _ => cases first
        | literal _ | set _ | look _ | repetition _ _ _ _ | capture _ _ | alternation _ => rfl
      rw [same, ih others]

theorem isFlat_of_isApart {part : Expr} (apart : part.isApart = true) : part.isFlat = true := by
  cases part with
  | literal _ => cases apart
  | empty | set _ | look _ | repetition _ _ _ _ | capture _ _ | concatenation _ | alternation _ => exact apart

/-- Parts before others stay before them. -/
theorem joinLiterals_apart (apart : ∀ part ∈ before, part.isApart = true) :
    joinLiterals (before ++ parts) = before ++ joinLiterals parts := by
  induction before with
  | nil => rfl
  | cons part before ih =>
      obtain ⟨first, others⟩ := List.forall_mem_cons.1 apart
      have same : joinLiterals (part :: (before ++ parts)) = part :: joinLiterals (before ++ parts) := by
        cases part with
        | empty | literal _ | concatenation _ => cases first
        | set _ | look _ | repetition _ _ _ _ | capture _ _ | alternation _ => rfl
      rw [List.cons_append, same, ih others, List.cons_append]

/-- The characters of a word are joined. -/
theorem joinLiterals_characters (nonempty : word ≠ []) (apart : ∀ part ∈ after, part.isApart = true) :
    joinLiterals (characters word ++ after) = .literal word :: after := by
  induction word with
  | nil => exact absurd rfl nonempty
  | cons character word ih =>
      have last : joinLiterals after = after := by
        simpa [joinLiterals] using @joinLiterals_apart after [] apart
      have same : characters (character :: word) ++ after = .literal [character] :: (characters word ++ after) := rfl
      rw [same, joinLiterals]
      cases word with
      | nil =>
          rw [characters, List.map_nil, List.nil_append, last]
          cases after with
          | nil => rfl
          | cons part after =>
              have first := apart part List.mem_cons_self
              cases part with
              | literal _ => cases first
              | empty | set _ | look _ | repetition _ _ _ _ | capture _ _ | concatenation _ | alternation _ => rfl
      | cons second word => rw [ih (List.cons_ne_nil _ _)]; rfl

/-- A word in a sequence is one part. -/
theorem sequence_word (nonempty : word ≠ []) (apart : ∀ part ∈ before, part.isApart = true)
    (apartToo : ∀ part ∈ after, part.isApart = true) (inhabited : before ≠ []) :
    sequence (before ++ (characters word ++ after)) = .concatenation (before ++ .literal word :: after) := by
  have flat : ∀ part ∈ before ++ (characters word ++ after), part.isFlat = true := by
    refine List.forall_mem_append.2 ⟨fun part member => isFlat_of_isApart (apart part member), ?_⟩
    refine List.forall_mem_append.2 ⟨fun part member => ?_, fun part member => isFlat_of_isApart (apartToo part member)⟩
    obtain ⟨_, _, rfl⟩ := List.mem_map.1 member
    rfl
  obtain ⟨first, rest, rfl⟩ := List.exists_cons_of_ne_nil inhabited
  rw [sequence, flattenParts_flat flat, joinLiterals_apart apart, joinLiterals_characters nonempty apartToo]
  cases rest <;> rfl

/-- A repetition of what matches some text stays one. -/
theorem repeated_filled {least : Nat} {most? : Option Nat} {body : Expr} (filled : mostLength? body ≠ some 0)
    (rounds : most? = none ∨ least = 0 ∧ most? = some 1) :
    repeated least most? true body = .repetition least most? true body := by
  rw [repeated]
  rcases rounds with rfl | ⟨rfl, rfl⟩
  · simp [filled]
  · simp [filled]

theorem set_filled (charset : Charset) : mostLength? (.set charset) ≠ some 0 := by
  rw [mostLength?]
  split <;> simp

end Expr

/-- The characters of a word nest nothing. -/
theorem Tree.depthAll_literals (word : Text) (parts : List Tree) :
    Tree.depthAll (literals word ++ parts) = Tree.depthAll parts := by
  induction word with
  | nil => rfl
  | cons character word ih =>
      have same : literals (character :: word) ++ parts = .literal ⟨character, false⟩ :: (literals word ++ parts) := rfl
      rw [same, Tree.depthAll, ih, Tree.depth, Nat.zero_max]

/-- A pattern denotes an expression while no mode is on but that of Unicode, and it changes none. -/
def Tree.Denotes (tree : Tree) (expr : Expr) : Prop := tree.resolve? {} = some (expr, {})

namespace Tree.Denotes

variable {body : Tree} {expr : Expr} {parts : List Tree} {exprs : List Expr}

theorem literal (character : Char) : Denotes (.literal ⟨character, false⟩) (.literal [character]) := by
  change some (Expr.ofSet (.single character), ({} : Modes)) = _
  rw [Expr.ofSet_single]

theorem space : Denotes (.named ⟨.space, false⟩) (.set Unicode.Property.whiteSpace) := by
  change some (Expr.ofSet Unicode.Property.whiteSpace, ({} : Modes)) = _
  rw [Expr.ofSet_whiteSpace]

theorem nonspace : Denotes (.named ⟨.space, true⟩) (.set Unicode.Property.whiteSpace.complement) := by
  change some (Expr.ofSet Unicode.Property.whiteSpace.complement, ({} : Modes)) = _
  rw [Expr.ofSet_nonspace]

theorem dot : Denotes .dot (.set lineCharacters) := by
  change some (Expr.ofSet lineCharacters, ({} : Modes)) = _
  rw [Expr.ofSet_lineCharacters]

theorem lineStart : Denotes (.assertion .lineStart) (.look .start) := rfl

theorem lineEnd : Denotes (.assertion .lineEnd) (.look .stop) := rfl

theorem repetition {least : Nat} {most? : Option Nat} (inside : body.Denotes expr)
    (filled : Expr.mostLength? expr ≠ some 0) (rounds : most? = none ∨ least = 0 ∧ most? = some 1) :
    Denotes (.repetition least most? true body) (.repetition least most? true expr) := by
  change (body.resolve? {}).bind _ = _
  rw [inside, ← Expr.repeated_filled filled rounds]
  rfl

theorem capture (index : Nat) (inside : body.Denotes expr) : Denotes (.capture index body) (.capture index expr) := by
  change (body.resolve? {}).bind _ = _
  rw [inside]
  rfl

theorem group (inside : body.Denotes expr) : Denotes (.group [] body) expr := by
  change (body.resolve? {}).bind _ = _
  rw [inside]
  rfl

/-- Patterns denote expressions one by one. -/
theorem all (denote : List.Forall₂ Denotes parts exprs) : resolveAll? parts {} = some (exprs, {}) := by
  induction denote with
  | nil => rfl
  | @cons part expr parts exprs first _ ih =>
      change (part.resolve? {}).bind _ = _
      rw [first]
      change (resolveAll? parts {}).bind _ = _
      rw [ih]
      rfl

theorem concatenation (denote : List.Forall₂ Denotes parts exprs) :
    Denotes (.concatenation parts) (.sequence exprs) := by
  change (resolveAll? parts {}).bind _ = _
  rw [all denote]
  rfl

theorem alternation (denote : List.Forall₂ Denotes parts exprs) : Denotes (.alternation parts) (.choice exprs) := by
  change (resolveAll? parts {}).bind _ = _
  rw [all denote]
  rfl

/-- The characters of a word denote themselves. -/
theorem word (word : Text) (denote : List.Forall₂ Denotes parts exprs) :
    List.Forall₂ Denotes (literals word ++ parts) (Expr.characters word ++ exprs) := by
  induction word with
  | nil => exact denote
  | cons character word ih => exact .cons (literal character) ih

/-- The text of a pattern writes the expression that the pattern denotes. -/
theorem read? {text : Text} {tree : Tree} (denotes : tree.Denotes expr) (read : Tree.read? text = some tree) :
    Expr.read? text = some expr := by
  rw [Expr.read?, read]
  change (tree.resolve? {}).bind _ = _
  rw [denotes]
  rfl

end Tree.Denotes

end Stencil.Pattern
