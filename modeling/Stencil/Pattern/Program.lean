/-
This file turns an expression into a program of steps.
-/
import Stencil.Pattern.Expr

namespace Stencil.Pattern

/-- A step reads one character, checks the position, marks it, or leads on. Steps have addresses.
Of two ways on, the first is preferred. -/
inductive Step where
  | read (charset : Charset) (next : Nat)
  | check (look : Look) (next : Nat)
  | mark (slot : Nat) (next : Nat)
  | fork (first second : Nat)
  | accept
  | never
  deriving Repr

/-- A code writer appends steps that end at a given address. It gives the address where they
begin. -/
abbrev Writer := Nat → Array Step → Nat × Array Step

namespace Writer

/-- One step is appended. -/
def append (step : Step) (code : Array Step) : Nat × Array Step := (code.size, code.push step)

/-- The way inside is preferred by a greedy repetition, the way outside by a lazy one. -/
def choose (greedy : Bool) (inside outside : Nat) : Step :=
  if greedy then .fork inside outside else .fork outside inside

/-- Nothing is appended. -/
def nothing : Writer := fun next code => (next, code)

/-- The first part leads to the second. -/
def andThen (first second : Writer) : Writer := fun next code =>
  let (start, code) := second next code
  first start code

/-- Steps that read the characters of a text. -/
def text : Text → Writer
  | [] => nothing
  | character :: rest =>
      andThen (fun next code => append (.read (.single character) next) code) (text rest)

/-- Some rounds one after another. -/
def rounds (body : Writer) : Nat → Writer
  | 0 => nothing
  | count + 1 => fun next code =>
      let (start, code) := body next code
      rounds body count start code

/-- At most some rounds. Before each of them a fork may leave for the end. -/
def optionalRounds (greedy : Bool) (body : Writer) : (count : Nat) → Writer := fun count exit =>
  go exit count exit
where
  /-- The rounds before an address, all of which leave for one exit. -/
  go (exit : Nat) : (count : Nat) → Writer
    | 0 => nothing
    | count + 1 => fun next code =>
        let (start, code) := body next code
        let (entry, code) := append (choose greedy start exit) code
        go exit count entry code

/-- One or more rounds. The fork behind a round leads back or on. The result has the address of
the fork beside the start. -/
def loop (greedy : Bool) (body : Writer) (next : Nat) (code : Array Step) :
    Nat × Nat × Array Step :=
  let fork := code.size
  let (start, code) := body fork (code.push .never)
  (start, fork, code.setIfInBounds fork (choose greedy start next))

/-- One or more rounds. -/
def oneOrMore (greedy : Bool) (body : Writer) : Writer := fun next code =>
  let (start, _, code) := loop greedy body next code
  (start, code)

/-- Any number of rounds. A round that may be empty is entered through a fork of its own, since a
position is passed at most once at each step. -/
def zeroOrMore (greedy mayBeEmpty : Bool) (body : Writer) : Writer := fun next code =>
  let (start, fork, code) := loop greedy body next code
  if mayBeEmpty then append (choose greedy start next) code else (fork, code)

/-- A fork to each of some addresses in order of preference. -/
def forks : List Nat → Array Step → Nat × Array Step
  | [], code => append .never code
  | [start], code => (start, code)
  | start :: rest, code =>
      let (second, code) := forks rest code
      append (.fork start second) code

end Writer

mutual

/-- The steps of an expression. -/
def Expr.write : Expr → Writer
  | .empty => .nothing
  | .literal characters => .text characters
  | .set charset => fun next code => Writer.append (.read charset next) code
  | .look kind => fun next code => Writer.append (.check kind next) code
  | .repetition least most? greedy body =>
      let round := write body
      match least, most? with
      | 0, none => .zeroOrMore greedy ((leastLength? body).all (· == 0)) round
      | least + 1, none => .andThen (.rounds round least) (.oneOrMore greedy round)
      | least, some most =>
          .andThen (.rounds round least) (.optionalRounds greedy round (most - least))
  | .capture index body => fun next code =>
      let (stop, code) := Writer.append (.mark (2 * index + 1) next) code
      let (start, code) := write body stop code
      Writer.append (.mark (2 * index) start) code
  | .concatenation parts => Expr.writeAll parts
  | .alternation branches => fun next code =>
      let (starts, code) := Expr.writeBranches branches next code
      Writer.forks starts code

/-- The steps of a sequence. -/
def Expr.writeAll : List Expr → Writer
  | [] => .nothing
  | part :: rest => .andThen (Expr.write part) (Expr.writeAll rest)

/-- The steps of some branches that all end at one address, and the addresses where they begin. -/
def Expr.writeBranches : List Expr → Nat → Array Step → List Nat × Array Step
  | [], _, code => ([], code)
  | branch :: rest, next, code =>
      let (start, code) := Expr.write branch next code
      let (starts, code) := Expr.writeBranches rest next code
      (start :: starts, code)

end

/-- A program is its steps and the address where it begins. -/
structure Program where
  steps : Array Step
  entry : Nat

/-- The program of an expression. It accepts where the expression ends. -/
def Program.ofExpr (expr : Expr) : Program :=
  let (entry, steps) := expr.write 0 #[.accept]
  ⟨steps, entry⟩

end Stencil.Pattern
