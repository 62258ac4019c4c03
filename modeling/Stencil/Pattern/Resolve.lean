/-
This file resolves the modes and the names of a pattern.
-/
import Stencil.Pattern.Expr
import Stencil.Pattern.Read
import Stencil.Unicode.Folding

namespace Stencil.Pattern

/-- The modes that are on. -/
structure Modes where
  ignoreCase : Bool := false
  multiLine : Bool := false
  dotAll : Bool := false
  swapGreed : Bool := false
  unicode : Bool := true
  crlf : Bool := false

namespace Modes

/-- One mode is turned on or off. Blanks concern the reader alone. -/
def switch (modes : Modes) (entry : Mode × Bool) : Modes :=
  match entry.1 with
  | .ignoreCase => { modes with ignoreCase := entry.2 }
  | .multiLine => { modes with multiLine := entry.2 }
  | .dotAll => { modes with dotAll := entry.2 }
  | .swapGreed => { modes with swapGreed := entry.2 }
  | .unicode => { modes with unicode := entry.2 }
  | .crlf => { modes with crlf := entry.2 }
  | .extended => modes

/-- The modes after a change. -/
def change (modes : Modes) (change : ModeChange) : Modes := change.foldl switch modes

/-- The set with both cases of its characters, where case is ignored. -/
def fold (modes : Modes) (set : Charset) : Charset :=
  if modes.ignoreCase then
    if modes.unicode then set.fold else set.foldAscii
  else set

/-- The set folded, and then negated. Without Unicode a set may hold ASCII only. -/
def finish? (modes : Modes) (negated : Bool) (set : Charset) : Option Charset :=
  let folded := modes.fold set
  let finished := if negated then folded.complement else folded
  if modes.unicode || finished.isAscii then some finished else none

/-- The character of a literal. Without Unicode a byte must be ASCII. -/
def literal? (modes : Modes) (literal : Literal) : Option Char :=
  if !modes.unicode && literal.isByte && 0x7F < literal.character.toNat then none
  else some literal.character

/-- The character of a literal in brackets. Without Unicode it must be ASCII. -/
def setLiteral? (modes : Modes) (literal : Literal) : Option Char :=
  if modes.unicode || literal.character.toNat ≤ 0x7F then some literal.character else none

/-- The set that a name denotes. -/
def named? (modes : Modes) (set : NamedSet) : Option Charset :=
  match set.name with
  | .digit => closed? Unicode.digits Charset.asciiDigit
  | .space => closed? Unicode.Property.whiteSpace Charset.asciiSpace
  | .word => closed? Unicode.wordCharacters Charset.asciiWord
  | .ascii ascii => modes.finish? set.negated ascii
  | .property name =>
      if modes.unicode then (Unicode.named? name).bind (modes.finish? set.negated) else none
  | .valued name value =>
      if modes.unicode then (Unicode.valued? name value).bind (modes.finish? set.negated) else none
where
  /-- These sets hold both cases of their characters already. -/
  closed? (unicode ascii : Charset) : Option Charset :=
    let chosen := if modes.unicode then unicode else ascii
    if set.negated then if modes.unicode then some chosen.complement else none else some chosen

/-- The characters that words are made of. -/
def word (modes : Modes) : Charset :=
  if modes.unicode then Unicode.wordCharacters else Charset.asciiWord

/-- The look of an assertion. -/
def look (modes : Modes) : Assertion → Look
  | .lineStart =>
      if modes.multiLine then if modes.crlf then .crlfStart else .lineStart else .start
  | .lineEnd => if modes.multiLine then if modes.crlf then .crlfEnd else .lineEnd else .stop
  | .textStart => .start
  | .textEnd => .stop
  | .wordBoundary => .boundary modes.word
  | .notWordBoundary => .notBoundary modes.word
  | .wordStart => .wordStart modes.word
  | .wordEnd => .wordEnd modes.word
  | .wordStartHalf => .wordStartHalf modes.word
  | .wordEndHalf => .wordEndHalf modes.word

/-- The set of the dot. Without Unicode it would match bytes that are no characters. -/
def dot? (modes : Modes) : Option Charset :=
  if !modes.unicode then none
  else if modes.dotAll then some .all
  else if modes.crlf then some (.complement (.ofRanges [⟨0x0A, 0x0A⟩, ⟨0x0D, 0x0D⟩]))
  else some (.complement (.range 0x0A 0x0A))

end Modes

mutual

/-- The set of a bracketed text, before it is negated as a whole. -/
def SetTree.resolve? (modes : Modes) : SetTree → Option Charset
  | .literal written => (modes.setLiteral? written).map .single
  | .range first last => do
      return .range (← modes.setLiteral? first).toNat (← modes.setLiteral? last).toNat
  | .named set => modes.named? set
  | .bracketed negated inner => (resolve? modes inner).bind (modes.finish? negated)
  | .union items => (resolveAll? modes items).map .ofRanges
  | .operation operator left right => do
      let left := modes.fold (← resolve? modes left)
      let right := modes.fold (← resolve? modes right)
      return match operator with
        | .intersection => left ∩ right
        | .difference => left \ right
        | .symmetricDifference => left.symmetricDifference right

/-- The ranges of some sets. -/
def SetTree.resolveAll? (modes : Modes) : List SetTree → Option (List CodeRange)
  | [] => some []
  | item :: rest => do
      return (← SetTree.resolve? modes item).ranges.toList ++ (← SetTree.resolveAll? modes rest)

end

mutual

/-- The expression of a pattern. A change of modes lasts to the end of the group that it stands
in, across branches. -/
def Tree.resolve? : Tree → StateT Modes Option Expr
  | .empty => return .empty
  | .modes change => do
      modify (Modes.change · change)
      return .empty
  | .literal written => do
      let modes ← get
      let character ← liftM (modes.literal? written)
      return .ofSet (modes.fold (.single character))
  | .dot => do return .ofSet (← liftM (← get).dot?)
  | .assertion kind => do return .look ((← get).look kind)
  | .named set => do return .ofSet (← liftM ((← get).named? set))
  | .bracketed negated inner => do
      let modes ← get
      return .ofSet (← liftM ((inner.resolve? modes).bind (modes.finish? negated)))
  | .repetition least most? greedy body => do
      let expr ← body.resolve?
      return .repeated least most? (greedy != (← get).swapGreed) expr
  | .capture index body => do
      let outside ← get
      let expr ← body.resolve?
      set outside
      return .capture index expr
  | .group change body => do
      let outside ← get
      set (outside.change change)
      let expr ← body.resolve?
      set outside
      return expr
  | .concatenation parts => return .sequence (← Tree.resolveAll? parts)
  | .alternation branches => return .choice (← Tree.resolveAll? branches)

/-- The expressions of some patterns in order. -/
def Tree.resolveAll? : List Tree → StateT Modes Option (List Expr)
  | [] => return []
  | tree :: rest => do
      let expr ← tree.resolve?
      return expr :: (← Tree.resolveAll? rest)

end

/-- The expression that a pattern text denotes. -/
def Expr.read? (text : Text) : Option Expr := do
  let tree ← Tree.read? text
  return (← tree.resolve? {}).1

end Stencil.Pattern
