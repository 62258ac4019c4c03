/-
This file measures the tree of a choice between literals, whose branches share their leads.
-/
import Stencil.Automaton.Tally

namespace Stencil.Automaton

/-- A word is what a literal spells in bytes. -/
abbrev Word := List Nat

namespace Words

/-- The words of a node are cut where one of them ends. Words after the cut share no branch with
words before it, and a node without branches ends once at most. -/
def chunks (words : List Word) : List (List Word) :=
  match words with
  | [] => [[]]
  | [] :: _ => [] :: cut (words.dropWhile List.isEmpty)
  | _ => cut words
where
  /-- Each empty word ends a chunk. -/
  cut : List Word → List (List Word)
    | [] => [[]]
    | [] :: rest => [] :: cut rest
    | word :: rest =>
        match cut rest with
        | [] => [[word]]
        | chunk :: more => (word :: chunk) :: more

/-- What is left of the words that start with a byte. -/
def tails (byte : Nat) (words : List Word) : List Word :=
  words.filterMap fun word =>
    match word with
    | [] => none
    | first :: rest => if first = byte then some rest else none

/-- The bytes that the words start with. -/
def leads (words : List Word) : List Nat := (words.filterMap List.head?).eraseDups

/-- The states and words of memory below a node. Each chunk with branches is a state, and a fork
joins the chunks and the ends between them. -/
def measure : (depth : Nat) → List Word → Tally
  | 0, _ => ⟨0, 0⟩
  | depth + 1, words =>
      let parts := chunks words
      let branching := parts.filter fun chunk => !chunk.isEmpty
      let own : Tally := ⟨1 + branching.length, branching.length + (parts.length - 1)⟩
      branching.foldl (fun total chunk =>
        let bytes := leads chunk
        let total : Tally :=
          if bytes.length = 1 then total
          else ⟨total.states, total.words + byteLinkWords * bytes.length⟩
        bytes.foldl (fun total byte =>
          let rest := tails byte chunk
          if rest.all List.isEmpty then total
          else
            let inner := measure depth rest
            ⟨total.states + inner.states, total.words + inner.words⟩) total) own

/-- The tree of a choice between words, with the state where they all end. -/
def builder (words : List Word) : Builder :=
  let depth := words.foldl (fun depth word => max depth word.length) 0
  let tree := measure (depth + 1) words
  .states (tree.states + 1) tree.words

end Words

end Stencil.Automaton
