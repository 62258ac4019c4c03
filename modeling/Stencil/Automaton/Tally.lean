/-
This file counts the states of automata over bytes and limits their size.
-/

namespace Stencil.Automaton

/-- Automata read a text from its start or from its end. -/
inductive Direction where
  | forward
  | backward
  deriving Repr, DecidableEq

/-- The items in the order in which a direction meets them. -/
def Direction.arrange {Item : Type} (items : List Item) : Direction → List Item
  | .forward => items
  | .backward => items.reverse

/-- A tally counts the states of an automaton and the words of memory that hang on them. -/
structure Tally where
  states : Nat
  words : Nat
  deriving Repr, DecidableEq

namespace Tally

/-- A state takes 32 bytes and a word takes four. -/
def bytes (tally : Tally) : Nat := 32 * tally.states + 4 * tally.words

/-- An automaton may take ten mebibytes. -/
def limit : Nat := 10 * 1024 * 1024

/-- The tally with more states and words, if it is within the limit. -/
def add? (tally : Tally) (states words : Nat) : Option Tally :=
  let more : Tally := ⟨tally.states + states, tally.words + words⟩
  if more.bytes ≤ limit then some more else none

end Tally

/-- A link from a fork takes a word, and a link from another state takes none. -/
def linkWords (isFork : Bool) : Nat := if isFork then 1 else 0

/-- A link on bytes takes two words where a state has several of them. -/
def byteLinkWords : Nat := 2

/-- A part is the tally after its states, and whether its last state is a fork. -/
structure Part where
  tally : Tally
  endsInFork : Bool
  deriving Repr, DecidableEq

/-- A builder adds a part after the states of a tally. -/
structure Builder where
  build? : Tally → Option Part

namespace Builder

/-- Some states that end in no fork. -/
def states (count words : Nat) : Builder :=
  ⟨fun tally => (tally.add? count words).map (⟨·, false⟩)⟩

/-- One part leads to the next. -/
def andThen (first second : Builder) : Builder where
  build? tally := do
    let left ← first.build? tally
    let tally ← left.tally.add? 0 (linkWords left.endsInFork)
    second.build? tally

/-- Some parts one after another. Without parts there is an empty state. -/
def sequence : List Builder → Builder
  | [] => states 1 0
  | [only] => only
  | first :: rest => first.andThen (sequence rest)

/-- Further rounds of a part. -/
def rounds (body : Builder) : (count : Nat) → Part → Option Part
  | 0, part => some part
  | count + 1, part =>
      match part.tally.add? 0 (linkWords part.endsInFork) with
      | none => none
      | some tally =>
          match body.build? tally with
          | none => none
          | some next => rounds body count next

/-- An exact number of rounds. Without rounds there is an empty state. -/
def exactly (body : Builder) : (count : Nat) → Builder
  | 0 => states 1 0
  | count + 1 => ⟨fun tally => (body.build? tally).bind (body.rounds count)⟩

/-- An optional round is a fork, the part, and an empty state. -/
def optional (body : Builder) : Builder where
  build? tally := do
    let inner ← body.build? (← tally.add? 1 0)
    return ⟨← inner.tally.add? 1 (2 + linkWords inner.endsInFork), false⟩

/-- Any number of rounds of a part that is never empty is a fork and the part. -/
def anyNonempty (body : Builder) : Builder where
  build? tally := do
    let inner ← body.build? (← tally.add? 1 0)
    return ⟨← inner.tally.add? 0 (1 + linkWords inner.endsInFork), true⟩

/-- Any number of rounds of a part that may be empty needs two forks and an empty state. -/
def anyNumber (body : Builder) : Builder where
  build? tally := do
    let inner ← body.build? tally
    return ⟨← inner.tally.add? 3 (4 + linkWords inner.endsInFork), false⟩

/-- One or more rounds are the part and a fork. -/
def oneOrMore (body : Builder) : Builder where
  build? tally := do
    let inner ← body.build? tally
    return ⟨← inner.tally.add? 1 (1 + linkWords inner.endsInFork), true⟩

/-- Optional rounds after a part, each behind a fork. -/
def optionalRounds (body : Builder) : (count : Nat) → Part → Option Part
  | 0, part => some part
  | count + 1, part =>
      match part.tally.add? 1 (2 + linkWords part.endsInFork) with
      | none => none
      | some tally =>
          match body.build? tally with
          | none => none
          | some next => optionalRounds body count next

/-- A bounded number of rounds. The required rounds come first, then the state where all optional
rounds may leave, and then those rounds. -/
def between (body : Builder) (least most : Nat) : Builder where
  build? tally := do
    let required ← (body.exactly least).build? tally
    let tally ← required.tally.add? 1 0
    let last ← body.optionalRounds (most - least) ⟨tally, required.endsInFork⟩
    return ⟨← last.tally.add? 0 (linkWords last.endsInFork), false⟩

/-- The further branches of a choice. -/
def branches : List Builder → Tally → Option Tally
  | [], tally => some tally
  | branch :: rest, tally => do
      let inner ← branch.build? tally
      branches rest (← inner.tally.add? 0 (1 + linkWords inner.endsInFork))

/-- A choice is a fork to the branches and an empty state behind them. -/
def choice : List Builder → Builder
  | [] => states 1 0
  | [only] => only
  | first :: second :: rest =>
      ⟨fun tally => do
        let left ← first.build? tally
        let right ← second.build? left.tally
        let forks := 2 + linkWords left.endsInFork + linkWords right.endsInFork
        return ⟨← branches rest (← right.tally.add? 2 forks), false⟩⟩

/-- A group that is recorded has a state at each side. -/
def recorded (body : Builder) : Builder where
  build? tally := do
    let inner ← body.build? (← tally.add? 1 0)
    return ⟨← inner.tally.add? 1 (linkWords inner.endsInFork), false⟩

end Builder

end Stencil.Automaton
