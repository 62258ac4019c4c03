/-
This file counts the states for sets of characters. States are shared through tables of slots, in
which a later entry may take the slot of an earlier one.
-/
import Stencil.Automaton.Tally
import Stencil.Charset.Bytes

namespace Stencil.Automaton

/-- The hash of some numbers mixes them one after another. -/
def hash (numbers : List Nat) : UInt64 :=
  numbers.foldl (fun mixed number => (mixed ^^^ number.toUInt64) * 1099511628211) 14695981039346656037

/-- A table has slots for keys and the states that they stand for. -/
structure Table (Key : Type) where
  slots : Array (Option (Key × Nat))

namespace Table

variable {Key : Type}

/-- A table whose slots are free. -/
def free (size : Nat) : Table Key := ⟨Array.replicate size none⟩

/-- The slot of a hash. -/
def slot (table : Table Key) (hash : UInt64) : Nat := hash.toNat % table.slots.size

/-- The state of a key, if its slot holds that key. -/
def find? [DecidableEq Key] (table : Table Key) (slot : Nat) (key : Key) : Option Nat :=
  match table.slots[slot]? with
  | some (some (found, state)) => if found = key then some state else none
  | _ => none

/-- The slot holds a key from now on. -/
def put (table : Table Key) (slot : Nat) (key : Key) (state : Nat) : Table Key :=
  ⟨table.slots.setIfInBounds slot (some (key, state))⟩

end Table

namespace Backward

/-- A state that reads a byte range and leads to another state. -/
structure Read where
  next : Nat
  range : ByteRange
  deriving DecidableEq

/-- The number of states so far, and the reading states that can be shared. -/
structure Progress where
  states : Nat
  table : Table Read

/-- The state that reads the ranges of a sequence from its last byte to its first. -/
def path (next : Nat) (progress : Progress) : List ByteRange → Progress
  | [] => progress
  | range :: rest =>
      let read : Read := ⟨next, range⟩
      let slot := progress.table.slot (hash [next, range.first, range.last])
      match progress.table.find? slot read with
      | some state => path state progress rest
      | none =>
          path progress.states ⟨progress.states + 1, progress.table.put slot read progress.states⟩ rest

/-- A fork leads to each sequence. The sequences end in one state and share what they can. -/
def builder (sequences : List (List ByteRange)) : Builder where
  build? tally := do
    let stop := tally.states + 1
    let progress := sequences.foldl (path stop) ⟨tally.states + 2, .free 1000⟩
    return ⟨← tally.add? (progress.states - tally.states) sequences.length, false⟩

end Backward

namespace Forward

/-- A link of a finished state. -/
structure Link where
  range : ByteRange
  next : Nat
  deriving DecidableEq

/-- An open state has finished links, in reverse, and the range of a link that is not finished. -/
structure Open where
  links : List Link := []
  last? : Option ByteRange := none

/-- The last link of an open state leads to a state. -/
def Open.finish (next : Nat) (node : Open) : Open :=
  match node.last? with
  | none => node
  | some range => ⟨⟨range, next⟩ :: node.links, none⟩

/-- The tally so far, the finished states that can be shared, and the open states on the way to the
end of the last sequence, deepest first. -/
structure Progress where
  states : Nat
  words : Nat
  table : Table (List Link)
  nodes : List Open

/-- The state with some links, which is added unless there is one to share. -/
def intern (progress : Progress) (links : List Link) : Nat × Progress :=
  let slot := progress.table.slot
    (hash (links.reverse.flatMap fun link => [link.range.first, link.range.last, link.next]))
  match progress.table.find? slot links with
  | some state => (state, progress)
  | none =>
      (progress.states, { progress with
        states := progress.states + 1
        words := progress.words + byteLinkWords * links.length
        table := progress.table.put slot links progress.states })

/-- The open states below a depth are finished, from the deepest up. -/
def close (depth next : Nat) (progress : Progress) : List Open → Progress
  | [] => { progress with nodes := [] }
  | [root] => { progress with nodes := [root.finish next] }
  | node :: parent :: rest =>
      if depth ≤ rest.length then
        let (state, progress) := intern progress (node.finish next).links
        close depth state progress (parent :: rest)
      else { progress with nodes := node.finish next :: parent :: rest }

/-- The number of ranges that a sequence shares with the open links. -/
def sharedDepth : List ByteRange → List Open → Nat
  | range :: ranges, node :: nodes =>
      if node.last? = some range then sharedDepth ranges nodes + 1 else 0
  | _, _ => 0

/-- New open states for the rest of a sequence, on top of those that it shares. -/
def extend (nodes : List Open) : List ByteRange → List Open
  | [] => nodes
  | range :: rest =>
      let first :=
        match nodes with
        | [] => []
        | node :: above => { node with last? := some range } :: above
      rest.foldl (fun nodes range => ⟨[], some range⟩ :: nodes) first

/-- One more sequence. Sequences come in the order of their bytes. -/
def insert (stop : Nat) (progress : Progress) (sequence : List ByteRange) : Progress :=
  let depth := sharedDepth sequence progress.nodes.reverse
  let progress := close depth stop progress progress.nodes
  { progress with nodes := extend progress.nodes (sequence.drop depth) }

/-- The sequences form a tree that shares its tails and ends in one state. -/
def builder (sequences : List (List ByteRange)) : Builder where
  build? tally := do
    let stop := tally.states
    let start : Progress := ⟨tally.states + 1, tally.words, .free 10000, [{}]⟩
    let progress := sequences.foldl (insert stop) start
    let progress := close 0 stop progress progress.nodes
    let (_, progress) := intern progress ((progress.nodes.head?.map Open.links).getD [])
    return ⟨← tally.add? (progress.states - tally.states) (progress.words - tally.words), false⟩

end Forward

/-- The states for one character of a set. A set of ASCII characters is one state that reads them
and one behind it. -/
def setBuilder (direction : Direction) (set : Charset) : Builder :=
  if set.isAscii then .states 2 (byteLinkWords * set.ranges.size)
  else
    let sequences := set.byteSequences
    match direction with
    | .forward => Forward.builder sequences
    | .backward => Backward.builder sequences

end Stencil.Automaton
