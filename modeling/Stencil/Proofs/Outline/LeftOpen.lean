/-
This file says which regions some lines leave open.
-/
import Stencil.Proofs.Outline.Basic

namespace Stencil.Line

variable {lines opened first second : List Line} {line : Line}

/-- Lines that close all regions are followed by others that do. -/
theorem Balanced.append {depth more : Nat} (balanced : Balanced depth first) (others : Balanced more second) :
    Balanced (depth + more) (first ++ second) := by
  constructor
  · intro front rest same
    rcases List.append_eq_append_iff.1 same with ⟨between, rfl, behind⟩ | ⟨between, whole, _⟩
    · have here := balanced.settled
      have there := others.enough between rest behind
      rw [List.countP_append, List.countP_append]
      omega
    · have here := balanced.enough front between whole
      omega
  · have here := balanced.settled
    have there := others.settled
    rw [List.countP_append, List.countP_append]
    omega

/-- Some lines leave regions open, whose opening lines are listed innermost first. Behind the innermost of these the
lines are balanced, and the lines before it leave the others open. -/
inductive LeavesOpen : List Line → List Line → Prop where
  | none {lines : List Line} (balanced : Balanced 0 lines) : LeavesOpen lines []
  | region {lines opened inside : List Line} {opening : Line} (outer : LeavesOpen lines opened)
      (opens : opening.opens = true) (balanced : Balanced 0 inside) :
      LeavesOpen (lines ++ opening :: inside) (opening :: opened)

namespace LeavesOpen

/-- Balanced lines leave the same regions open. -/
theorem append (leaves : LeavesOpen lines opened) {more : List Line} (balanced : Balanced 0 more) :
    LeavesOpen (lines ++ more) opened := by
  cases leaves with
  | none before => exact .none (before.append balanced)
  | region outer opens inside =>
      rw [List.append_assoc, List.cons_append]
      exact .region outer opens (inside.append balanced)

theorem plain (leaves : LeavesOpen lines opened) (between : line.opens = false ∧ line.closes = false) :
    LeavesOpen (lines ++ [line]) opened :=
  leaves.append ((balanced_cons_plain between).2 (balanced_nil.2 rfl))

theorem opening (leaves : LeavesOpen lines opened) (opens : line.opens = true) :
    LeavesOpen (lines ++ [line]) (line :: opened) :=
  .region leaves opens (balanced_nil.2 rfl)

/-- A closing line closes the innermost region. -/
theorem closing {innermost : Line} (leaves : LeavesOpen lines (innermost :: opened)) (closes : line.closes = true) :
    LeavesOpen (lines ++ [line]) opened := by
  cases leaves with
  | region outer opens inside =>
      have last : Balanced 1 [line] := (balanced_cons_closing closes).2 ⟨0, rfl, balanced_nil.2 rfl⟩
      have block := (balanced_cons_opening opens).2 (inside.append last)
      rw [List.append_assoc, List.cons_append]
      exact outer.append block

end LeavesOpen

end Stencil.Line
