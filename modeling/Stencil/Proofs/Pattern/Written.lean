/-
This file says how a pattern is read from its text, one written part at a time.
-/
import Stencil.Proofs.Charset.Named

namespace Stencil.Pattern

/-- A backslash before each character that has a meaning lets a word stand for itself. -/
def escaped (word : Text) : Text :=
  word.flatMap fun character => if Read.isMeta character then ['\\', character] else [character]

/-- The literal of each character of a word. -/
def literals (word : Text) : List Tree := word.map fun character => .literal ⟨character, false⟩

namespace Read

/-- A reader of branches has read some branches and some parts of the next branch, both in reverse. -/
structure Stage where
  done : List Tree
  parts : List Tree
  rest : Text
  names : List Text
  groups : Nat

/-- What is read from a stage on. -/
def Stage.read? (stage : Stage) (fuel levels : Nat) : Option (Tree × Cursor) :=
  branches fuel levels stage.done stage.parts ⟨stage.rest, false, stage.names, stage.groups⟩

/-- A reader goes on from the cursor of the reader before it. -/
theorem bind_apply {α β : Type} (first : Read α) (next : α → Read β) (cursor : Cursor) :
    (first >>= next) cursor = (first cursor).bind fun found => next found.1 found.2 := rfl

theorem get_apply (cursor : Cursor) : (get : Read Cursor) cursor = some (cursor, cursor) := rfl

/-- With fuel for each character left, a reader comes from one stage to another. -/
structure Advances (levels : Nat) (start stop : Stage) : Prop where
  shorter : stop.rest.length ≤ start.rest.length
  reads : ∀ fuel, start.rest.length < fuel →
    ∃ left, stop.rest.length < left ∧ start.read? fuel levels = stop.read? left levels

namespace Advances

variable {levels : Nat} {start middle stop : Stage}

theorem refl (levels : Nat) (stage : Stage) : Advances levels stage stage where
  shorter := Nat.le_refl _
  reads fuel enough := ⟨fuel, enough, rfl⟩

theorem trans (first : Advances levels start middle) (second : Advances levels middle stop) :
    Advances levels start stop where
  shorter := Nat.le_trans second.shorter first.shorter
  reads fuel enough := by
    obtain ⟨more, enoughToo, same⟩ := first.reads fuel enough
    obtain ⟨left, enoughLeft, sameToo⟩ := second.reads more enoughToo
    exact ⟨left, enoughLeft, same.trans sameToo⟩

/-- One step of a reader leaves fewer characters. -/
theorem of_step (shorter : stop.rest.length < start.rest.length)
    (step : ∀ fuel, start.rest.length ≤ fuel → start.read? (fuel + 1) levels = stop.read? fuel levels) :
    Advances levels start stop where
  shorter := Nat.le_of_lt shorter
  reads fuel enough := by
    obtain ⟨less, rfl⟩ : ∃ less, fuel = less + 1 := ⟨fuel - 1, by omega⟩
    exact ⟨less, by omega, step less (Nat.le_of_lt_succ enough)⟩

end Advances

variable {done parts : List Tree} {rest : Text} {names : List Text} {groups levels : Nat}

/-- The parts that are always written the same way. -/
def fixedParts : List (Text × Tree) :=
  [(['^'], .assertion .lineStart), (['$'], .assertion .lineEnd), (['.'], .dot), (['\\', 's'], .named ⟨.space, false⟩),
    (['\\', 'S'], .named ⟨.space, true⟩)]

theorem advances_fixed (written : Text) (part : Tree) (fixed : (written, part) ∈ fixedParts) :
    Advances levels ⟨done, parts, written ++ rest, names, groups⟩ ⟨done, part :: parts, rest, names, groups⟩ := by
  simp only [fixedParts, List.mem_cons, List.not_mem_nil, or_false, Prod.mk.injEq] at fixed
  rcases fixed with ⟨rfl, rfl⟩ | ⟨rfl, rfl⟩ | ⟨rfl, rfl⟩ | ⟨rfl, rfl⟩ | ⟨rfl, rfl⟩
  -- The written characters alone decide which step the reader takes, so that it computes.
  all_goals
    refine .of_step ?_ fun _ _ => rfl
    simp only [List.cons_append, List.nil_append, List.length_cons]
    omega

theorem advances_bar : Advances levels ⟨done, parts, '|' :: rest, names, groups⟩
    ⟨sequenceOf parts :: done, [], rest, names, groups⟩ :=
  .of_step (Nat.lt_succ_self _) fun _ _ => rfl

/-- A character with a meaning stands for itself behind a backslash. -/
theorem advances_meta {character : Char} (meaning : isMeta character = true) :
    Advances levels ⟨done, parts, '\\' :: character :: rest, names, groups⟩
      ⟨done, .literal ⟨character, false⟩ :: parts, rest, names, groups⟩ := by
  refine .of_step (Nat.lt_succ_of_lt (Nat.lt_succ_self _)) fun fuel _ => ?_
  simp only [isMeta, List.contains_iff_mem, List.mem_cons, List.not_mem_nil, or_false] at meaning
  rcases meaning with rfl | rfl | rfl | rfl | rfl | rfl | rfl | rfl | rfl | rfl | rfl | rfl | rfl | rfl | rfl | rfl |
    rfl | rfl
  all_goals rfl

/-- A character without a meaning stands for itself. -/
theorem advances_plain {character : Char} (plain : isMeta character = false) :
    Advances levels ⟨done, parts, character :: rest, names, groups⟩
      ⟨done, .literal ⟨character, false⟩ :: parts, rest, names, groups⟩ := by
  refine .of_step (Nat.lt_succ_self _) fun fuel _ => ?_
  have absent : character ∉
      ['\\', '.', '+', '*', '?', '(', ')', '|', '[', ']', '{', '}', '^', '$', '#', '&', '-', '~'] := by
    rw [isMeta, Bool.eq_false_iff, Ne, List.contains_iff_mem] at plain
    exact plain
  simp only [List.mem_cons, List.not_mem_nil, or_false, not_or] at absent
  obtain ⟨_, _, _, _, _, _, _, _, _, _, _, _, _, _, _⟩ := absent
  have itself : Read.plain character = .literal ⟨character, false⟩ := by
    unfold Read.plain
    split <;> first | rfl | contradiction
  have step : branches (fuel + 1) levels done parts ⟨character :: rest, false, names, groups⟩ =
      branches fuel levels done (Read.plain character :: parts) ⟨rest, false, names, groups⟩ := by
    have skips : skip ⟨character :: rest, false, names, groups⟩ =
        some ((), ⟨character :: rest, false, names, groups⟩) := rfl
    have peeks : peek? ⟨character :: rest, false, names, groups⟩ =
        some (some character, ⟨character :: rest, false, names, groups⟩) := rfl
    rw [branches, bind_apply, skips, Option.bind_some, bind_apply, peeks, Option.bind_some]
    simp only
    rfl
  rw [itself] at step
  exact step

/-- An escaped word is read as its characters. -/
theorem advances_escaped (word : Text) : Advances levels ⟨done, parts, escaped word ++ rest, names, groups⟩
    ⟨done, (literals word).reverse ++ parts, rest, names, groups⟩ := by
  induction word generalizing parts with
  | nil => exact .refl _ _
  | cons character word ih =>
      have reversed : (literals (character :: word)).reverse ++ parts =
          (literals word).reverse ++ .literal ⟨character, false⟩ :: parts := by
        rw [literals, List.map_cons, List.reverse_cons, List.append_assoc, List.singleton_append]
        rfl
      rw [escaped, List.flatMap_cons, List.append_assoc, reversed]
      refine Advances.trans ?_ ih
      split
      · next meaning => exact advances_meta meaning
      · next plain => exact advances_plain (Bool.eq_false_iff.2 plain)

/-- The repetition operators of one character. -/
def operators : List (Char × Nat × Option Nat) := [('?', 0, some 1), ('*', 0, none), ('+', 1, none)]

/-- Another word is next, and it is not accepted. -/
theorem accept_absent {word : String} {cursor : Cursor} (absent : Text.dropWord? word.toList cursor.rest = none) :
    accept word cursor = some (false, cursor) := by
  rw [accept, bind_apply, get_apply, Option.bind_some, absent]
  rfl

theorem advances_operator (operator : Char) (least : Nat) (most? : Option Nat) {body : Tree}
    (known : (operator, least, most?) ∈ operators) (repeatable : ∀ change, body ≠ .modes change)
    (greedy : rest.head? ≠ some '?') : Advances levels ⟨done, body :: parts, operator :: rest, names, groups⟩
      ⟨done, .repetition least most? true body :: parts, rest, names, groups⟩ := by
  have applies : operand (body :: parts) = (pure (body, parts) : Read _) := by
    cases body with
    | modes change => exact absurd rfl (repeatable change)
    | _ => rfl
  have absent : Text.dropWord? "?".toList rest = none := by
    cases rest with
    | nil => rfl
    | cons character rest => exact if_neg fun same => greedy (congrArg some same.symm)
  have last : Read.greedy ⟨rest, false, names, groups⟩ = some (true, ⟨rest, false, names, groups⟩) := by
    change (accept "?" ⟨rest, false, names, groups⟩).bind _ = _
    rw [@accept_absent "?" ⟨rest, false, names, groups⟩ absent]
    rfl
  have counted : uncounted (body :: parts) least most? ⟨operator :: rest, false, names, groups⟩ =
      some (.repetition least most? true body :: parts, ⟨rest, false, names, groups⟩) := by
    rw [uncounted, applies]
    change (Read.greedy ⟨rest, false, names, groups⟩).bind _ = _
    rw [last]
    rfl
  refine .of_step (Nat.lt_succ_self _) fun fuel _ => ?_
  have step : branches (fuel + 1) levels done (body :: parts) ⟨operator :: rest, false, names, groups⟩ =
      (uncounted (body :: parts) least most? ⟨operator :: rest, false, names, groups⟩).bind fun result =>
        branches fuel levels done result.1 result.2 := by
    simp only [operators, List.mem_cons, List.not_mem_nil, or_false, Prod.mk.injEq] at known
    rcases known with ⟨rfl, rfl, rfl⟩ | ⟨rfl, rfl, rfl⟩ | ⟨rfl, rfl, rfl⟩
    all_goals rfl
  rw [counted] at step
  exact step

/-- Two parts or more are a sequence. -/
theorem sequenceOf_many {parts : List Tree} (many : 2 ≤ parts.length) :
    sequenceOf parts = .concatenation parts.reverse := by
  match parts, many with
  | _ :: _ :: _, _ => rfl

/-- Branches up to a closing parenthesis are a choice. -/
theorem Stage.read?_closed {left : Nat} (enough : 0 < left) :
    Stage.read? ⟨done, parts, ')' :: rest, names, groups⟩ left levels =
      some (choiceOf (sequenceOf parts :: done), ⟨')' :: rest, false, names, groups⟩) := by
  obtain ⟨less, rfl⟩ : ∃ less, left = less + 1 := ⟨left - 1, by omega⟩
  rfl

section

variable {otherNames : List Text} {branchesInside partsInside : List Tree} {otherGroups : Nat} {body : Text}

/-- What is read inside a group, up to its closing parenthesis. -/
theorem Advances.groupBody {fuel : Nat} (inside : Advances levels ⟨[], [], body, names, groups⟩
    ⟨branchesInside, partsInside, ')' :: rest, otherNames, otherGroups⟩) (enough : body.length < fuel) :
    groupBody false false (branches fuel levels [] []) ⟨body, false, names, groups⟩ =
      some (choiceOf (sequenceOf partsInside :: branchesInside), ⟨rest, false, otherNames, otherGroups⟩) := by
  obtain ⟨left, more, same⟩ := inside.reads fuel enough
  rw [Stage.read?_closed (Nat.zero_lt_of_lt more)] at same
  change (branches fuel levels [] [] ⟨body, false, names, groups⟩).bind _ = _
  rw [show branches fuel levels [] [] ⟨body, false, names, groups⟩ = _ from same]
  rfl

/-- A group without a number. -/
theorem Advances.group (inside : Advances levels ⟨[], [], body, names, groups⟩
    ⟨branchesInside, partsInside, ')' :: rest, otherNames, otherGroups⟩) :
    Advances (levels + 1) ⟨done, parts, '(' :: '?' :: ':' :: body, names, groups⟩
      ⟨done, .group [] (choiceOf (sequenceOf partsInside :: branchesInside)) :: parts, rest, otherNames,
        otherGroups⟩ := by
  have shorter := inside.shorter
  simp only [List.length_cons] at shorter
  refine .of_step (by simp only [List.length_cons]; omega) fun fuel enough => ?_
  have step : branches (fuel + 1) (levels + 1) done parts ⟨'(' :: '?' :: ':' :: body, false, names, groups⟩ =
      (Read.groupBody false false (branches fuel levels [] []) ⟨body, false, names, groups⟩).bind fun result =>
        branches fuel (levels + 1) done (.group [] result.1 :: parts) result.2 := rfl
  simp only [List.length_cons] at enough
  rw [inside.groupBody (by omega)] at step
  exact step

/-- A new name of small letters is read up to its bracket. -/
theorem groupName_letters {first : Char} {letters : Text}
    (small : ∀ letter ∈ first :: letters, letter.isLower = true)
    (new : names.contains (first :: letters) = false) :
    groupName ⟨first :: letters ++ '>' :: rest, false, names, groups⟩ =
      some ((), ⟨rest, false, (first :: letters) :: names, groups⟩) := by
  have split : splitAtWord? ['>'] (first :: letters ++ '>' :: rest) = some (first :: letters, rest) := by
    clear new
    generalize first :: letters = name at small ⊢
    induction name with
    | nil => rfl
    | cons letter name ih =>
        obtain ⟨lower, others⟩ := List.forall_mem_cons.1 small
        have differ : '>' ≠ letter := by
          rintro rfl
          cases lower
        have absent : Text.dropWord? ['>'] (letter :: (name ++ '>' :: rest)) = none := if_neg differ
        rw [List.cons_append, splitAtWord?, absent]
        dsimp only
        rw [ih others]
        rfl
  have starts : isNameCharacter true first = true := by
    rw [isNameCharacter, if_pos rfl, Unicode.contains_nameStart (small first List.mem_cons_self), Bool.or_true]
  have goesOn : letters.all (isNameCharacter false) = true := by
    refine List.all_eq_true.2 fun letter member => ?_
    have contained :=
      Unicode.contains_nameCharacters (Unicode.contains_nameStart (small letter (List.mem_cons_of_mem _ member)))
    rw [isNameCharacter, if_neg Bool.false_ne_true, contained]
    simp only [Bool.or_true]
  rw [groupName, bind_apply, get_apply, Option.bind_some]
  dsimp only
  rw [split]
  dsimp only
  rw [starts, goesOn, new]
  rfl

/-- A group with a name has the next number. -/
theorem Advances.capture {first : Char} {letters : Text}
    (small : ∀ letter ∈ first :: letters, letter.isLower = true)
    (new : names.contains (first :: letters) = false)
    (inside : Advances levels ⟨[], [], body, (first :: letters) :: names, groups + 1⟩
      ⟨branchesInside, partsInside, ')' :: rest, otherNames, otherGroups⟩) :
    Advances (levels + 1) ⟨done, parts, '(' :: '?' :: 'P' :: '<' :: (first :: letters ++ '>' :: body), names, groups⟩
      ⟨done, .capture (groups + 1) (choiceOf (sequenceOf partsInside :: branchesInside)) :: parts, rest, otherNames,
        otherGroups⟩ := by
  have shorter := inside.shorter
  simp only [List.length_cons] at shorter
  refine .of_step (by simp only [List.length_cons, List.length_append]; omega) fun fuel enough => ?_
  have opens : opening ⟨'(' :: '?' :: 'P' :: '<' :: (first :: letters ++ '>' :: body), false, names, groups⟩ =
      some (.capture (groups + 1), ⟨body, false, (first :: letters) :: names, groups + 1⟩) := by
    change (groupName ⟨first :: letters ++ '>' :: body, false, names, groups + 1⟩).bind _ = _
    rw [groupName_letters small new]
    rfl
  have step : branches (fuel + 1) (levels + 1) done parts
      ⟨'(' :: '?' :: 'P' :: '<' :: (first :: letters ++ '>' :: body), false, names, groups⟩ =
      (Read.groupBody false false (branches fuel levels [] [])
        ⟨body, false, (first :: letters) :: names, groups + 1⟩).bind fun result =>
          branches fuel (levels + 1) done (.capture (groups + 1) result.1 :: parts) result.2 := by
    rw [branches]
    change (opening ⟨'(' :: '?' :: 'P' :: '<' :: (first :: letters ++ '>' :: body), false, names, groups⟩).bind _ = _
    rw [opens]
    rfl
  simp only [List.length_cons, List.length_append] at enough
  rw [inside.groupBody (by omega)] at step
  exact step

end

/-- A text that is read up to its end is a pattern, if that does not nest too deep. -/
theorem Advances.tree {text : Text} (whole : Advances nestLimit ⟨[], [], text, [], 0⟩ ⟨done, parts, [], names, groups⟩)
    (shallow : (choiceOf (sequenceOf parts :: done)).depth ≤ nestLimit) :
    Tree.read? text = some (choiceOf (sequenceOf parts :: done)) := by
  obtain ⟨left, more, same⟩ := whole.reads (2 * text.length + 2) (by dsimp only; omega)
  obtain ⟨less, rfl⟩ : ∃ less, left = less + 1 := ⟨left - 1, by omega⟩
  have read : branches (2 * text.length + 2) nestLimit [] [] ⟨text, false, [], 0⟩ =
      some (choiceOf (sequenceOf parts :: done), ⟨[], false, names, groups⟩) := same
  rw [Tree.read?, read]
  exact if_pos (by simp [shallow])

end Read

end Stencil.Pattern
