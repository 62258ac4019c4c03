/-
This file computes the outcomes of expressions in the middle of a text.
-/
import Stencil.Proofs.Charset.Member
import Stencil.Proofs.Pattern.Writes

namespace Stencil.Pattern.Outcomes

variable {charset : Charset} {first second third : Outcomes} {before rest : Text} {character : Char}

/-- The outcomes between what was read and what is left of a text. -/
def between (outcomes : Outcomes) (before rest : Text) : List Finish := outcomes (before ++ rest).toArray before.length

/-- The second part is read behind an outcome of the first. -/
theorem andThen_of_singleton {text : Array Char} {position next : Nat} (only : first text position = [⟨next, []⟩]) :
    andThen first second text position = second text next := by
  simp [andThen, only]

theorem andThen_of_nil {text : Array Char} {position : Nat} (none : first text position = []) :
    andThen first second text position = [] := by
  rw [andThen, none, List.flatMap_nil]

theorem andThen_assoc : andThen (andThen first second) third = andThen first (andThen second third) := by
  funext text position
  simp only [andThen, List.flatMap_assoc, List.map_flatMap, List.flatMap_map, List.map_map, Function.comp_def,
    Finish.after_after]
  rfl

section

theorem set_between_cons : (set charset).between before (character :: rest) =
    if charset.contains character then [⟨before.length + 1, []⟩] else [] := by
  simp [between, set]

theorem set_between_nil : (set charset).between before [] = [] := by
  simp [between, set]

/-- A character of a set is read. -/
theorem andThen_set_reads (contained : charset.contains character = true) :
    (andThen (set charset) second).between before (character :: rest) =
      second.between (before ++ [character]) rest := by
  have only := @set_between_cons charset before rest character
  rw [if_pos contained] at only
  rw [between, andThen_of_singleton only, between, List.append_assoc, List.singleton_append, List.length_append]
  rfl

theorem andThen_set_refuses (refused : charset.contains character = false) :
    (andThen (set charset) second).between before (character :: rest) = [] := by
  refine andThen_of_nil ?_
  have none := @set_between_cons charset before rest character
  rwa [refused, if_neg Bool.false_ne_true] at none

theorem andThen_set_nil : (andThen (set charset) second).between before [] = [] :=
  andThen_of_nil set_between_nil

/-- A word is read where it stands. -/
theorem andThen_text (word before rest : Text) : (andThen (text word) second).between before rest =
    match Text.dropWord? word rest with
    | some after => second.between (before ++ word) after
    | none => [] := by
  induction word generalizing before rest with
  | nil =>
      rw [Text.dropWord?, List.append_nil]
      exact andThen_of_singleton rfl
  | cons expected word ih =>
      rw [text, andThen_assoc]
      cases rest with
      | nil =>
          rw [Text.dropWord?]
          exact andThen_set_nil
      | cons character rest =>
          by_cases same : expected = character
          · subst same
            rw [Text.dropWord?, if_pos rfl, andThen_set_reads (Charset.contains_single.2 rfl), ih, List.append_assoc,
              List.singleton_append]
          · rw [Text.dropWord?, if_neg same]
            refine andThen_set_refuses (Bool.eq_false_iff.2 fun contained => same ?_)
            exact (Charset.contains_single.1 contained).symm

/-- Characters are read, or the second part comes. -/
theorem andThen_star_reads (contained : charset.contains character = true) :
    (andThen (star charset) second).between before (character :: rest) =
      (andThen (star charset) second).between (before ++ [character]) rest ++
        second.between before (character :: rest) := by
  have inside : before.length < (before ++ character :: rest).toArray.size := by simp
  have here : (before ++ character :: rest).toArray[before.length] = character := by simp
  have more : star charset (before ++ character :: rest).toArray before.length =
      star charset (before ++ character :: rest).toArray (before.length + 1) ++ [⟨before.length, []⟩] := by
    rw [star, dif_pos inside, here, if_pos contained]
    rfl
  simp only [between, andThen, more, List.flatMap_append, List.append_assoc, List.singleton_append, List.length_append,
    List.length_singleton]
  simp

/-- Where no character of the set is next the second part comes. -/
theorem andThen_star_refuses (refused : ∀ next ∈ rest.head?, charset.contains next = false) :
    (andThen (star charset) second).between before rest = second.between before rest := by
  refine andThen_of_singleton ?_
  rw [star]
  cases rest with
  | nil =>
      rw [dif_neg (by simp)]
      rfl
  | cons next rest =>
      rw [dif_pos (by simp), if_neg]
      · rfl
      · rw [Bool.not_eq_true]
        simpa using refused next rfl

/-- Where the second part fails before characters of the set, all of them are read. -/
theorem andThen_star_of_failing (fails : ∀ before character rest, charset.contains character = true →
      second.between before (character :: rest) = []) (before rest : Text) :
    (andThen (star charset) second).between before rest =
      second.between (before ++ rest.takeWhile charset.contains) (rest.dropWhile charset.contains) := by
  induction rest generalizing before with
  | nil => rw [andThen_star_refuses (by simp), List.takeWhile_nil, List.append_nil, List.dropWhile_nil]
  | cons character rest ih =>
      by_cases contained : charset.contains character = true
      · rw [andThen_star_reads contained, ih, fails _ _ _ contained, List.append_nil, List.takeWhile_cons,
          if_pos contained, List.dropWhile_cons, if_pos contained, List.append_assoc, List.singleton_append]
      · rw [Bool.not_eq_true] at contained
        rw [andThen_star_refuses (by simpa using contained), List.takeWhile_cons, contained,
          if_neg Bool.false_ne_true, List.append_nil, List.dropWhile_cons, contained, if_neg Bool.false_ne_true]

/-- The outcomes behind the most characters of the set are preferred. -/
theorem head?_andThen_star {finish : Finish} {before rest : Text}
    (finds : (second.between (before ++ rest.takeWhile charset.contains) (rest.dropWhile charset.contains)).head? =
      some finish) : ((andThen (star charset) second).between before rest).head? = some finish := by
  induction rest generalizing before with
  | nil =>
      rw [List.takeWhile_nil, List.append_nil, List.dropWhile_nil] at finds
      rw [andThen_star_refuses (by simp), finds]
  | cons character rest ih =>
      by_cases contained : charset.contains character = true
      · rw [List.takeWhile_cons, if_pos contained, List.dropWhile_cons, if_pos contained, ← List.singleton_append,
          ← List.append_assoc] at finds
        rw [andThen_star_reads contained, List.head?_append, ih finds]
        rfl
      · rw [Bool.not_eq_true] at contained
        rw [List.takeWhile_cons, contained, if_neg Bool.false_ne_true, List.append_nil, List.dropWhile_cons, contained,
          if_neg Bool.false_ne_true] at finds
        rw [andThen_star_refuses (by simpa using contained), finds]

/-- The second part is found nowhere before the end of the text. -/
theorem andThen_star_of_none {before rest : Text}
    (fails : ∀ before after, after <:+ rest → second.between before after = []) :
    (andThen (star charset) second).between before rest = [] := by
  induction rest generalizing before with
  | nil => rw [andThen_star_refuses (by simp), fails _ _ List.suffix_rfl]
  | cons character rest ih =>
      by_cases contained : charset.contains character = true
      · have later := @ih (before ++ [character]) fun before after suffix =>
          fails before after (suffix.trans (List.suffix_cons _ _))
        rw [andThen_star_reads contained, later, fails _ _ List.suffix_rfl, List.append_nil]
      · rw [Bool.not_eq_true] at contained
        rw [andThen_star_refuses (by simpa using contained), fails _ _ List.suffix_rfl]

/-- One character of the set is read, and the others as by a repetition that may have none. -/
theorem andThen_plus : (andThen (plus charset) second).between before rest =
    match rest with
    | [] => []
    | character :: rest =>
        if charset.contains character then (andThen (star charset) second).between (before ++ [character]) rest
        else [] := by
  rw [plus, andThen_assoc]
  cases rest with
  | nil => exact andThen_set_nil
  | cons character rest =>
      dsimp only
      split
      · next contained => exact andThen_set_reads contained
      · next refused => exact andThen_set_refuses (Bool.eq_false_iff.2 refused)

/-- The body is preferred. -/
theorem andThen_optional : (andThen (optional first) second).between before rest =
    (andThen first second).between before rest ++ second.between before rest := by
  simp [between, andThen, optional, nothing]

/-- At the start of the text the look changes nothing. -/
theorem andThen_look_start : (andThen (look .start) second).between [] rest = second.between [] rest :=
  andThen_of_singleton (by simp [look, Look.holds])

/-- The start of the text is nowhere else. -/
theorem andThen_look_inside {text : Array Char} {position : Nat} (inside : position < text.size) :
    andThen (look .start) second text (position + 1) = [] :=
  andThen_of_nil (by simp [look, Look.holds, inside])

/-- The preferred outcome of two parts, where the second is found behind the preferred one of the first. -/
theorem head?_andThen {text : Array Char} {position : Nat} {outcome later : Finish}
    (finds : (first text position).head? = some outcome) (findsToo : (second text outcome.stop).head? = some later) :
    (andThen first second text position).head? = some (later.after outcome.marks) := by
  obtain ⟨others, same⟩ := List.head?_eq_some_iff.1 finds
  rw [andThen, same, List.flatMap_cons, List.head?_append, List.head?_map, findsToo]
  rfl

end

end Stencil.Pattern.Outcomes
