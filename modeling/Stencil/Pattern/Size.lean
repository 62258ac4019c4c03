/-
This file measures the automata over bytes that an expression stands for. A pattern whose automata
are too large is refused.
-/
import Stencil.Automaton.Set
import Stencil.Automaton.Words
import Stencil.Pattern.Expr

namespace Stencil.Pattern

open Automaton

/-- The bytes of a text. -/
def bytesOf (text : Text) : Word := text.flatMap fun character =>
  (String.utf8EncodeChar character).map UInt8.toNat

/-- The word of a literal, as a direction reads it. -/
def word? (direction : Direction) : Expr → Option Word
  | .literal characters => some (direction.arrange (bytesOf characters))
  | _ => none

mutual

/-- The automaton of an expression. Groups are recorded by the forward automaton only. -/
def Expr.builder (direction : Direction) : Expr → Builder
  | .empty | .look _ => .states 1 0
  | .literal characters => .states (Text.byteSize characters) 0
  | .set charset => setBuilder direction charset
  | .repetition least most? _ body =>
      let round := builder direction body
      match least, most? with
      | 0, some 1 => round.optional
      | 0, none => if (leastLength? body).any (0 < ·) then round.anyNonempty else round.anyNumber
      | 1, none => round.oneOrMore
      | least + 1, none => (round.exactly least).andThen round.oneOrMore
      | least, some most => if least = most then round.exactly least else round.between least most
  | .capture _ body =>
      match direction with
      | .forward => (builder direction body).recorded
      | .backward => builder direction body
  | .concatenation parts => .sequence (direction.arrange (Expr.builders direction parts))
  | .alternation branches =>
      match branches.mapM (word? direction) with
      | some words => Words.builder words
      | none => .choice (Expr.builders direction branches)

/-- The automata of some expressions. -/
def Expr.builders (direction : Direction) : List Expr → List Builder
  | [] => []
  | expr :: rest => Expr.builder direction expr :: Expr.builders direction rest

end

mutual

/-- Every match has the look at its first position, as the direction reads it. -/
def Expr.leadsWith (direction : Direction) (kind : Look) : Expr → Bool
  | .empty | .literal _ | .set _ => false
  | .look found => found = kind
  | .repetition least _ _ body => least != 0 && leadsWith direction kind body
  | .capture _ body => leadsWith direction kind body
  | .concatenation parts => (Expr.leadsWithAll direction kind parts).1
  | .alternation branches => Expr.allLeadWith direction kind branches

/-- Some part has the look before any text is passed, and no part passes text. In a sequence, text
may stand before a part in reading order. -/
def Expr.leadsWithAll (direction : Direction) (kind : Look) : List Expr → Bool × Bool
  | [] => (false, true)
  | part :: rest =>
      let (later, restIsIdle) := Expr.leadsWithAll direction kind rest
      let isIdle := mostLength? part = some 0
      let here := leadsWith direction kind part
      match direction with
      | .forward => (here || isIdle && later, isIdle && restIsIdle)
      | .backward => (later || restIsIdle && here, isIdle && restIsIdle)

/-- Every branch has the look at its first position. -/
def Expr.allLeadWith (direction : Direction) (kind : Look) : List Expr → Bool
  | [] => true
  | branch :: rest => leadsWith direction kind branch && Expr.allLeadWith direction kind rest

end

/-- The look that ties a match to the end of the text where a direction starts to read. -/
def anchor : Direction → Look
  | .forward => .start
  | .backward => .stop

/-- Unless each match is tied to the place where reading starts, a loop that skips bytes comes first.
It is a fork, a state that reads any byte, and one behind it. -/
def skipBuilder (direction : Direction) (expr : Expr) : Builder :=
  if expr.leadsWith direction (anchor direction) then .states 1 0
  else .states 3 (2 + byteLinkWords)

/-- The automaton of a whole pattern. The match as a whole is recorded like a group, and a state that
accepts comes last. -/
def Expr.patternBuilder (direction : Direction) (expr : Expr) : Builder :=
  let body := expr.builder direction
  let recorded :=
    match direction with
    | .forward => body.recorded
    | .backward => body
  ((skipBuilder direction expr).andThen recorded).andThen (.states 1 0)

/-- The fewest words of a choice that is searched for as a list of words. -/
def wordListLength : Nat := 3000

/-- The expression is a choice between words only, and there are so many of them that the search
needs no automaton over bytes. -/
def Expr.isWordList : Expr → Bool
  | .alternation branches =>
      wordListLength ≤ branches.length && (branches.mapM (word? .forward)).isSome
  | _ => false

/-- Both automata of the expression are within the limit, or it needs none. Any other expression is
measured, also one whose matches are a few fixed words: `x|[^\s\S]\w{999}` matches no more than `x`
and is refused for the size of its second branch, although a search for the word alone would do. -/
def Expr.fits (expr : Expr) : Bool :=
  expr.isWordList || [Direction.forward, .backward].all fun direction =>
    ((expr.patternBuilder direction).build? ⟨0, 0⟩).isSome

end Stencil.Pattern
