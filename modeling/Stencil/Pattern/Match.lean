/-
This file runs a program on a text. All ways through the program move over the text together, in
the order of their preference.
-/
import Stencil.Pattern.Program

namespace Stencil.Pattern

/-- The character before a position and the character at it satisfy the look. -/
def Look.holds (text : Array Char) (position : Nat) (look : Look) : Bool :=
  let before? := if position = 0 then none else text[position - 1]?
  let after? := text[position]?
  match look with
  | .start => before?.isNone
  | .stop => after?.isNone
  | .lineStart => before?.isNone || before? = some '\n'
  | .lineEnd => after?.isNone || after? = some '\n'
  | .crlfStart => before?.isNone || before? = some '\n' || (before? = some '\r' && after? != some '\n')
  | .crlfEnd => after?.isNone || after? = some '\r' || (after? = some '\n' && before? != some '\r')
  | .boundary word => before?.any word.contains != after?.any word.contains
  | .notBoundary word => before?.any word.contains == after?.any word.contains
  | .wordStart word => !before?.any word.contains && after?.any word.contains
  | .wordEnd word => before?.any word.contains && !after?.any word.contains
  | .wordStartHalf word => !before?.any word.contains
  | .wordEndHalf word => !after?.any word.contains

/-- A position was marked in a slot. -/
structure Mark where
  slot : Nat
  position : Nat
  deriving Repr, DecidableEq

/-- A way through the program has reached an address. Its marks are kept in reverse. -/
structure Way where
  address : Nat
  marks : List Mark

/-- The steps that were passed at a position, and the ways that wait there in reverse order. -/
structure Front where
  passed : Array Bool
  waiting : List Way

/-- The number of steps that were not passed. -/
def Front.open (front : Front) : Nat := front.passed.count false

theorem count_set_lt {passed : Array Bool} {address : Nat} (inside : address < passed.size)
    (free : passed[address] = false) :
    (passed.set address true inside).count false < passed.count false := by
  have present : 0 < passed.count false :=
    Array.count_pos_iff.2 (free ▸ Array.getElem_mem inside)
  have counted : (false == false) = true := rfl
  have uncounted : ¬(true == false) = true := by decide
  rw [Array.count_set, free, if_pos counted, if_neg uncounted]
  omega

/-- Each way is followed up to a step that reads or accepts. A step is passed once, by the way that
is preferred, and the ways are followed in order. -/
def follow (program : Program) (text : Array Char) (position : Nat) (front : Front) :
    List Way → Front
  | [] => front
  | way :: rest =>
      if inside : way.address < front.passed.size then
        if free : front.passed[way.address] = false then
          let passed := front.passed.set way.address true inside
          match program.steps[way.address]? with
          | some (.read _ _) | some .accept =>
              follow program text position ⟨passed, way :: front.waiting⟩ rest
          | some (.check look next) =>
              if look.holds text position then
                follow program text position ⟨passed, front.waiting⟩ (⟨next, way.marks⟩ :: rest)
              else follow program text position ⟨passed, front.waiting⟩ rest
          | some (.mark slot next) =>
              follow program text position ⟨passed, front.waiting⟩
                (⟨next, ⟨slot, position⟩ :: way.marks⟩ :: rest)
          | some (.fork first second) =>
              follow program text position ⟨passed, front.waiting⟩
                (⟨first, way.marks⟩ :: ⟨second, way.marks⟩ :: rest)
          | some .never | none => follow program text position ⟨passed, front.waiting⟩ rest
        else follow program text position front rest
      else follow program text position front rest
termination_by ways => 2 * front.passed.count false + ways.length
decreasing_by
  all_goals simp only [List.length_cons]
  all_goals first
    | omega
    | have := count_set_lt inside free; omega

/-- The ways that wait at a position in the order of their preference. -/
def settle (program : Program) (text : Array Char) (position : Nat) (ways : List Way) : List Way :=
  (follow program text position ⟨Array.replicate program.steps.size false, []⟩ ways).waiting.reverse

/-- The way on from a step that reads a character of the text. -/
def advance? (program : Program) (character : Char) (way : Way) : Option Way :=
  match program.steps[way.address]? with
  | some (.read charset next) => if charset.contains character then some ⟨next, way.marks⟩ else none
  | _ => none

/-- The way waits at the accepting step. -/
def accepts (program : Program) (way : Way) : Bool :=
  match program.steps[way.address]? with
  | some .accept => true
  | _ => false

/-- A finished way has the position of its end and its marks. -/
structure Finish where
  stop : Nat
  marks : List Mark

/-- The ways move over the text until none is left. A way that accepts ends the ways after it, and
replaces what was accepted before. -/
def run (program : Program) (text : Array Char) (position : Nat) (ways : List Way)
    (best? : Option Finish) : Option Finish :=
  let waiting := settle program text position ways
  let preferred := waiting.takeWhile fun way => !accepts program way
  let best? := match waiting.find? (accepts program) with
    | some way => some ⟨position, way.marks⟩
    | none => best?
  match preferred with
  | [] => best?
  | _ =>
      if inside : position < text.size then
        run program text (position + 1) (preferred.filterMap (advance? program text[position])) best?
      else best?
termination_by text.size - position

/-- A match is a span of character positions. A group has a span if it took part. -/
structure Match where
  start : Nat
  stop : Nat
  groups : List (Option (Nat × Nat))
  deriving Repr, DecidableEq

/-- The position that was last marked in a slot. -/
def lastMark? (marks : List Mark) (slot : Nat) : Option Nat :=
  (marks.find? fun mark => mark.slot = slot).map Mark.position

/-- The span of a group. -/
def groupSpan? (marks : List Mark) (index : Nat) : Option (Nat × Nat) :=
  (lastMark? marks (2 * index)).bind fun start =>
    (lastMark? marks (2 * index + 1)).map fun stop => (start, stop)

end Stencil.Pattern
