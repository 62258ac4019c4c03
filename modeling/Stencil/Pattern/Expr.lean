/-
This file holds patterns in a normal form, free of modes and names.
-/
import Stencil.Charset.Basic
import Stencil.Text.Basic

namespace Stencil.Pattern

/-- What a position must look like. -/
inductive Look where
  | start
  | stop
  | lineStart
  | lineEnd
  | crlfStart
  | crlfEnd
  | boundary (word : Charset)
  | notBoundary (word : Charset)
  | wordStart (word : Charset)
  | wordEnd (word : Charset)
  | wordStartHalf (word : Charset)
  | wordEndHalf (word : Charset)
  deriving Repr, DecidableEq

/-- An expression in normal form. A set of one character is written as a literal. -/
inductive Expr where
  | empty
  | literal (characters : Text)
  | set (charset : Charset)
  | look (look : Look)
  | repetition (least : Nat) (most? : Option Nat) (greedy : Bool) (body : Expr)
  | capture (index : Nat) (body : Expr)
  | concatenation (parts : List Expr)
  | alternation (branches : List Expr)
  deriving Repr, BEq

namespace Expr

/-- The sum of two lengths that may be absent. -/
def addLength (first? second? : Option Nat) : Option Nat :=
  first?.bind fun first => second?.map (first + ·)

mutual

/-- The fewest characters that the expression matches, if it matches any text. -/
def leastLength? : Expr → Option Nat
  | .empty | .look _ => some 0
  | .literal characters => some characters.length
  | .set charset => if charset.isEmpty then none else some 1
  | .repetition least _ _ body => (leastLength? body).map (least * ·)
  | .capture _ body => leastLength? body
  | .concatenation parts => leastLengthAll? parts
  | .alternation branches => leastLengthAny? branches

/-- The fewest characters of a sequence. -/
def leastLengthAll? : List Expr → Option Nat
  | [] => some 0
  | part :: rest => addLength (leastLength? part) (leastLengthAll? rest)

/-- The fewest characters of a choice. A branch without matches leaves the choice without a least
length. -/
def leastLengthAny? : List Expr → Option Nat
  | [] => none
  | [branch] => leastLength? branch
  | branch :: rest =>
      (leastLength? branch).bind fun first => (leastLengthAny? rest).map (min first ·)

end

mutual

/-- The most characters that the expression matches, if there is a bound. -/
def mostLength? : Expr → Option Nat
  | .empty | .look _ => some 0
  | .literal characters => some characters.length
  | .set charset => if charset.isEmpty then none else some 1
  | .repetition _ most? _ body => most?.bind fun most => (mostLength? body).map (most * ·)
  | .capture _ body => mostLength? body
  | .concatenation parts => mostLengthAll? parts
  | .alternation branches => mostLengthAny? branches

/-- The most characters of a sequence. -/
def mostLengthAll? : List Expr → Option Nat
  | [] => some 0
  | part :: rest => addLength (mostLength? part) (mostLengthAll? rest)

/-- The most characters of a choice. -/
def mostLengthAny? : List Expr → Option Nat
  | [] => none
  | [branch] => mostLength? branch
  | branch :: rest =>
      (mostLength? branch).bind fun first => (mostLengthAny? rest).map (max first ·)

end

mutual

/-- The largest group number in the expression. -/
def lastGroup : Expr → Nat
  | .empty | .literal _ | .set _ | .look _ => 0
  | .repetition _ _ _ body => lastGroup body
  | .capture index body => max index (lastGroup body)
  | .concatenation parts => lastGroupAll parts
  | .alternation branches => lastGroupAll branches

/-- The largest group number in some expressions. -/
def lastGroupAll : List Expr → Nat
  | [] => 0
  | expr :: rest => max (lastGroup expr) (lastGroupAll rest)

end

mutual

/-- The number of nodes of the expression. -/
def weight : Expr → Nat
  | .empty | .literal _ | .set _ | .look _ => 1
  | .repetition _ _ _ body => weight body + 1
  | .capture _ body => weight body + 1
  | .concatenation parts => weightAll parts + 1
  | .alternation branches => weightAll branches + 1

/-- The number of nodes of some expressions. -/
def weightAll : List Expr → Nat
  | [] => 0
  | expr :: rest => weight expr + weightAll rest

end

/-- The expression for one character of a set. -/
def ofSet (charset : Charset) : Expr :=
  match charset.only? with
  | some character => .literal [character]
  | none => .set charset

/-- A repetition. What matches only the empty text needs no second round, no round at all leaves
nothing of the body, and one round is the body. -/
def repeated (least : Nat) (most? : Option Nat) (greedy : Bool) (body : Expr) : Expr :=
  let idle := mostLength? body = some 0
  let least := if idle then min least 1 else least
  let most? := if idle then some ((most?.map (min 1 ·)).getD 1) else most?
  if least = 0 ∧ most? = some 0 then .empty
  else if least = 1 ∧ most? = some 1 then body
  else .repetition least most? greedy body

/-- The parts of a sequence without nested sequences and empty parts. -/
def flattenParts (parts : List Expr) : List Expr :=
  parts.flatMap fun part =>
    match part with
    | .empty => []
    | .concatenation inner => inner
    | _ => [part]

/-- Neighbouring literals are one literal. -/
def joinLiterals : List Expr → List Expr
  | [] => []
  | .literal first :: rest =>
      match joinLiterals rest with
      | .literal second :: more => .literal (first ++ second) :: more
      | more => .literal first :: more
  | part :: rest => part :: joinLiterals rest

/-- A sequence. -/
def sequence (parts : List Expr) : Expr :=
  match joinLiterals (flattenParts parts) with
  | [] => .empty
  | [part] => part
  | parts => .concatenation parts

/-- The set of an expression that matches one character. -/
def oneOf? : Expr → Option Charset
  | .set charset => some charset
  | _ => none

/-- The set of a literal of one character. -/
def oneLiteral? : Expr → Option Charset
  | .literal [character] => some (.single character)
  | _ => none

/-- The parts of a sequence. -/
def parts? : Expr → Option (List Expr)
  | .concatenation parts => some parts
  | _ => none

/-- The parts that two sequences begin with. -/
def commonParts : List Expr → List Expr → List Expr
  | first :: firsts, second :: seconds =>
      if first == second then first :: commonParts firsts seconds else []
  | _, _ => []

/-- The parts that all sequences begin with. -/
def commonLead : List (List Expr) → List Expr
  | [] => []
  | first :: rest => rest.foldl commonParts first

/-- The branches of a choice without nested choices. -/
def flattenBranches (branches : List Expr) : List Expr :=
  branches.flatMap fun branch =>
    match branch with
    | .alternation inner => inner
    | _ => [branch]

/-- A choice between sets, or between literals of one character, is a set. -/
def setOf? (branches : List Expr) : Option Charset :=
  (branches.mapM oneLiteral? <|> branches.mapM oneOf?).map fun sets =>
    .ofRanges (sets.flatMap fun charset => charset.ranges.toList)

/-- A choice. The parts that all branches begin with are taken out, which leaves branches of less
weight. -/
def choiceWithin : (fuel : Nat) → List Expr → Expr
  | 0, branches => .alternation branches
  | fuel + 1, branches =>
      match flattenBranches branches with
      | [] => .set .empty
      | [branch] => branch
      | branches =>
          match setOf? branches with
          | some charset => ofSet charset
          | none =>
              match branches.mapM parts? with
              | none => .alternation branches
              | some sequences =>
                  let lead := commonLead sequences
                  if lead.isEmpty then .alternation branches
                  else
                    let tails := sequences.map fun parts => sequence (parts.drop lead.length)
                    sequence (lead ++ [choiceWithin fuel tails])

/-- A choice between branches, the first of which is preferred. -/
def choice (branches : List Expr) : Expr := choiceWithin (weightAll branches + 1) branches

end Expr

end Stencil.Pattern
