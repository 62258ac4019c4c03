/-
This file reads a pattern from its text.
-/
import Stencil.Charset.Ascii
import Stencil.Pattern.Tree
import Stencil.Text.Quoted
import Stencil.Unicode.Query

namespace Stencil.Pattern

/-- A cursor is what is left of the text, whether blanks and comments are skipped, the names of
the groups, and their number. -/
structure Cursor where
  rest : Text
  extended : Bool := false
  names : List Text := []
  groups : Nat := 0

/-- A reader moves the cursor or fails. -/
abbrev Read := StateT Cursor Option

namespace Read

/-- The text without leading blanks and comments. A comment goes on to the end of its line. -/
def skipped (inComment : Bool) : Text → Text
  | [] => []
  | character :: rest =>
      if inComment then skipped (character != '\n') rest
      else if Text.isBlank character then skipped false rest
      else if character = '#' then skipped true rest
      else character :: rest

/-- The next character, if there is one. -/
def peek? : Read (Option Char) := return (← get).rest.head?

/-- The next character. -/
def peek : Read Char := do
  match ← peek? with
  | some character => return character
  | none => failure

/-- The cursor moves past one character. -/
def bump : Read Unit := modify fun cursor => { cursor with rest := cursor.rest.drop 1 }

/-- The cursor moves past blanks and comments, where they are skipped. -/
def skip : Read Unit :=
  modify fun cursor =>
    if cursor.extended then { cursor with rest := skipped false cursor.rest } else cursor

/-- The cursor moves past one character and what is skipped after it. -/
def bumpSkip : Read Unit := do
  bump
  skip

/-- The cursor moves past a word, if the word is next. -/
def accept (word : String) : Read Bool := do
  let cursor ← get
  match Text.dropWord? word.toList cursor.rest with
  | some rest =>
      set { cursor with rest := rest }
      return true
  | none => return false

/-- The cursor moves past the first of some words that is next. -/
def acceptAny : List String → Read Bool
  | [] => return false
  | word :: words => do
      if ← accept word then return true
      acceptAny words

/-- A condition must hold. -/
def require (condition : Bool) : Read Unit := if condition then return else failure

/-- The character after the next one and what is skipped between them. Of a comment only its mark
is passed over. -/
def second? : Read (Option Char) := do
  let cursor ← get
  let rest := cursor.rest.drop 1
  if cursor.extended then
    match rest.dropWhile Text.isBlank with
    | '#' :: inside =>
        match inside.dropWhile Text.isBlank with
        | character :: _ => return some character
        | [] => return rest.head?
    | character :: _ => return some character
    | [] => return rest.head?
  else return rest.head?

/-- The characters up to a delimiter, each followed by what is skipped. -/
def upTo (stop : Char) : (fuel : Nat) → Text → Read Text
  | 0, _ => failure
  | fuel + 1, reversed => do
      let character ← peek
      if character = stop then return reversed.reverse
      bumpSkip
      Read.upTo stop fuel (character :: reversed)

/-- The characters as long as they pass a test, each followed by what is skipped. -/
def takeWhile (test : Char → Bool) : (fuel : Nat) → Text → Read Text
  | 0, _ => failure
  | fuel + 1, reversed => do
      match ← peek? with
      | none => return reversed.reverse
      | some character =>
          if test character then
            bumpSkip
            Read.takeWhile test fuel (character :: reversed)
          else return reversed.reverse

/-- Enough fuel to read each character left once. -/
def fuel : Read Nat := return (← get).rest.length + 1

/-- The character that hexadecimal digits denote. -/
def hexCharacter (digits : Text) : Read Char :=
  match Text.Quoted.codeCharacter digits with
  | .ok character => return character
  | .error _ => failure

/-- A fixed count of hexadecimal digits. -/
def hexFixed : (count : Nat) → Text → Read Text
  | 0, reversed => return reversed.reverse
  | count + 1, reversed => do
      let digit ← peek
      require (Text.Quoted.hexDigit? digit).isSome
      bumpSkip
      hexFixed count (digit :: reversed)

/-- A hexadecimal escape after its letter: digits in braces, or as many as the letter asks for. -/
def hexEscape (letter : Char) : Read Literal := do
  bumpSkip
  if (← peek) = '{' then
    bumpSkip
    let digits ← Read.upTo '}' (← fuel) []
    require (digits.all fun digit => (Text.Quoted.hexDigit? digit).isSome)
    bumpSkip
    return ⟨← hexCharacter digits, false⟩
  else
    let count := match letter with
      | 'x' => 2
      | 'u' => 4
      | _ => 8
    let digits ← hexFixed count []
    return ⟨← hexCharacter digits, letter = 'x'⟩

/-- The place where a word first stands in a text, as the texts before and after it. -/
def splitAtWord? (word : Text) : Text → Option (Text × Text)
  | [] => none
  | character :: rest =>
      match Text.dropWord? word (character :: rest) with
      | some after => some ([], after)
      | none => (splitAtWord? word rest).map fun sides => (character :: sides.1, sides.2)

/-- A property escape after its letter: one letter, or a name in braces with or without a value. A
value behind `!=` is one that the characters do not have. With the large letter before it, they have
it again. -/
def propertyEscape (letter : Char) : Read NamedSet := do
  let negated := letter = 'P'
  bumpSkip
  if (← peek) = '{' then
    bumpSkip
    let body ← Read.upTo '}' (← fuel) []
    bump
    match splitAtWord? ['!', '='] body with
    | some (name, value) => return ⟨.valued name value, !negated⟩
    | none =>
        match splitAtWord? [':'] body <|> splitAtWord? ['='] body with
        | some (name, value) => return ⟨.valued name value, negated⟩
        | none => return ⟨.property body, negated⟩
  else
    let name ← peek
    require (name != '\\')
    bumpSkip
    return ⟨.property [name], negated⟩

/-- The kind of a word boundary that is named in braces. What does not look like a name is left
to the repetition operators. -/
def boundaryName? : Read (Option Assertion) := do
  let isNamePart (character : Char) : Bool := character.isAlpha || character == '-'
  let start ← get
  bumpSkip
  if isNamePart (← peek) then
    let name ← Read.takeWhile isNamePart (← fuel) []
    require ((← peek) = '}')
    bump
    match String.ofList name with
    | "start" => return some .wordStart
    | "end" => return some .wordEnd
    | "start-half" => return some .wordStartHalf
    | "end-half" => return some .wordEndHalf
    | _ => failure
  else
    set start
    return none

/-- The characters that have a meaning outside or inside brackets. -/
def isMeta (character : Char) : Bool :=
  ['\\', '.', '+', '*', '?', '(', ')', '|', '[', ']', '{', '}', '^', '$', '#', '&', '-', '~'].contains
    character

/-- The ASCII characters without a meaning that a backslash may stand before. -/
def isPlainEscape (character : Char) : Bool :=
  character.toNat < 0x80 && !character.isAlphanum && character != '<' && character != '>'

/-- What a backslash and a letter stand for, when nothing else belongs to it. -/
def simpleEscape? (letter : Char) : Option Tree :=
  match letter with
  | 'a' => some (.literal ⟨'\x07', false⟩)
  | 'f' => some (.literal ⟨'\x0C', false⟩)
  | 't' => some (.literal ⟨'\t', false⟩)
  | 'n' => some (.literal ⟨'\n', false⟩)
  | 'r' => some (.literal ⟨'\r', false⟩)
  | 'v' => some (.literal ⟨'\x0B', false⟩)
  | 'd' => some (.named ⟨.digit, false⟩)
  | 's' => some (.named ⟨.space, false⟩)
  | 'w' => some (.named ⟨.word, false⟩)
  | 'D' => some (.named ⟨.digit, true⟩)
  | 'S' => some (.named ⟨.space, true⟩)
  | 'W' => some (.named ⟨.word, true⟩)
  | 'A' => some (.assertion .textStart)
  | 'z' => some (.assertion .textEnd)
  | 'B' => some (.assertion .notWordBoundary)
  | '<' => some (.assertion .wordStart)
  | '>' => some (.assertion .wordEnd)
  | _ =>
      if isMeta letter || isPlainEscape letter then some (.literal ⟨letter, false⟩) else none

/-- An escape, from its backslash on. -/
def escape : Read Tree := do
  bump
  match ← peek with
  | 'x' => return .literal (← hexEscape 'x')
  | 'u' => return .literal (← hexEscape 'u')
  | 'U' => return .literal (← hexEscape 'U')
  | 'p' => return .named (← propertyEscape 'p')
  | 'P' => return .named (← propertyEscape 'P')
  | 'b' =>
      bump
      if (← peek?) = some '{' then
        return .assertion ((← boundaryName?).getD .wordBoundary)
      else return .assertion .wordBoundary
  | letter =>
      bump
      match simpleEscape? letter with
      | some tree => return tree
      | none => failure

/-- One character or escape inside brackets. -/
def setItem : Read Tree := do
  let character ← peek
  if character = '\\' then escape
  else
    bump
    return .literal ⟨character, false⟩

/-- The literal of an end of a range. -/
def rangeEnd : Tree → Read Literal
  | .literal literal => return literal
  | _ => failure

/-- A character, an escape or a range inside brackets. A hyphen before another hyphen or before the
closing bracket makes no range. -/
def setRange : Read SetTree := do
  let first ← setItem
  skip
  let next ← peek
  let second ← second?
  if next != '-' || second = some ']' || second = some '-' then
    match first with
    | .literal literal => return .literal literal
    | .named set => return .named set
    | _ => failure
  else
    bumpSkip
    let _ ← peek
    let last ← setItem
    let first ← rangeEnd first
    let last ← rangeEnd last
    require (first.character ≤ last.character)
    return .range first last

/-- A named ASCII set in brackets and colons. Any other text leaves the cursor where it is. -/
def asciiSet? : Read (Option NamedSet) := do
  let cursor ← get
  let named? : Option (NamedSet × Text) := do
    let body ← Text.dropWord? ['[', ':'] cursor.rest
    let (negated, body) := match body with
      | '^' :: more => (true, more)
      | _ => (false, body)
    let (name, after) ← splitAtWord? [':'] body
    let rest ← Text.dropWord? [']'] after
    let charset ← Charset.ascii? name
    return (⟨.ascii charset, negated⟩, rest)
  match named? with
  | some (named, rest) =>
      set { cursor with rest := rest }
      return some named
  | none => return none

/-- The set of the items between operators. -/
def unionOf (reversed : List SetTree) : SetTree :=
  match reversed with
  | [item] => item
  | _ => .union reversed.reverse

/-- The left side of an operator whose right side is read. -/
def operate (left? : Option (SetOperator × SetTree)) (reversed : List SetTree) : SetTree :=
  match left? with
  | none => unionOf reversed
  | some (operator, left) => .operation operator left (unionOf reversed)

/-- Hyphens after the opening bracket stand for themselves. -/
def leadingHyphens : (fuel : Nat) → List SetTree → Read (List SetTree)
  | 0, _ => failure
  | fuel + 1, items => do
      if (← peek) = '-' then
        bumpSkip
        leadingHyphens fuel (.literal ⟨'-', false⟩ :: items)
      else return items

/-- The opening bracket of a set, whether the set is negated, and its first items. A closing
bracket in first place stands for itself. -/
def openSet : Read (Bool × List SetTree) := do
  bumpSkip
  let negated := (← peek) = '^'
  if negated then bumpSkip
  let hyphens ← leadingHyphens (← fuel) []
  if hyphens.isEmpty && (← peek) = ']' then
    bumpSkip
    let _ ← peek
    return (negated, [.literal ⟨']', false⟩])
  else return (negated, hyphens)

/-- The two characters of a set operator, if they are next. -/
def setOperator? : Read (Option SetOperator) := do
  match (← get).rest with
  | '&' :: '&' :: _ => return some .intersection
  | '-' :: '-' :: _ => return some .difference
  | '~' :: '~' :: _ => return some .symmetricDifference
  | _ => return none

mutual

/-- A set in brackets, from its opening bracket on. -/
def bracketed : (fuel levels : Nat) → Read (Bool × SetTree)
  | fuel + 1, levels + 1 => do
      let (negated, items) ← openSet
      let inner ← setBody fuel levels none items
      return (negated, inner)
  | _, _ => failure

/-- The rest of a set up to its closing bracket. -/
def setBody : (fuel levels : Nat) → Option (SetOperator × SetTree) → List SetTree → Read SetTree
  | 0, _, _, _ => failure
  | fuel + 1, levels, left?, items => do
      skip
      let next ← peek
      if next = ']' then
        bump
        return operate left? items
      else if next = '[' then
        match ← asciiSet? with
        | some named => setBody fuel levels left? (.named named :: items)
        | none =>
            let (negated, inner) ← bracketed fuel levels
            setBody fuel levels left? (.bracketed negated inner :: items)
      else
        match ← setOperator? with
        | some operator =>
            bump
            bump
            setBody fuel levels (some (operator, operate left? items)) []
        | none =>
            let item ← setRange
            setBody fuel levels left? (item :: items)

end

/-- The mode that a letter stands for. -/
def mode? (letter : Char) : Option Mode :=
  match letter with
  | 'i' => some .ignoreCase
  | 'm' => some .multiLine
  | 's' => some .dotAll
  | 'U' => some .swapGreed
  | 'u' => some .unicode
  | 'R' => some .crlf
  | 'x' => some .extended
  | _ => none

/-- Mode letters up to a colon or a closing parenthesis. One hyphen turns the letters after it
off. No letter comes twice, and none may be missing after the hyphen. -/
def modeChange (negating afterHyphen : Bool) : (fuel : Nat) → ModeChange → Read ModeChange
  | 0, _ => failure
  | fuel + 1, change => do
      let letter ← peek
      if letter = ':' || letter = ')' then
        require !afterHyphen
        return change.reverse
      else if letter = '-' then
        require !negating
        bump
        modeChange true true fuel change
      else
        match mode? letter with
        | none => failure
        | some mode =>
            require !(change.any fun entry => entry.1 = mode)
            bump
            modeChange negating false fuel ((mode, !negating) :: change)

/-- A group name starts with a letter or an underscore and goes on with those, digits, dots and
brackets. -/
def isNameCharacter (first : Bool) (character : Char) : Bool :=
  character == '_' ||
    if first then Unicode.nameStart.contains character
    else
      character == '.' || character == '[' || character == ']' ||
        Unicode.nameCharacters.contains character

/-- The name of a group and the bracket after it. No two groups have one name. -/
def groupName : Read Unit := do
  let cursor ← get
  match splitAtWord? ['>'] cursor.rest with
  | none => failure
  | some (name, rest) =>
      require (match name with
        | [] => false
        | first :: more => isNameCharacter true first && more.all (isNameCharacter false))
      require !(cursor.names.contains name)
      set { cursor with rest := rest, names := name :: cursor.names }

/-- The number of the next group. -/
def nextGroup : Read Nat := do
  modify fun cursor => { cursor with groups := cursor.groups + 1 }
  return (← get).groups

/-- What an opening parenthesis begins. -/
inductive Opening where
  | capture (index : Nat)
  | group (change : ModeChange)
  | modes (change : ModeChange)

/-- An opening parenthesis with what belongs to it. Looking around is not supported. -/
def opening : Read Opening := do
  bumpSkip
  require !(← acceptAny ["?=", "?!", "?<=", "?<!"])
  if ← acceptAny ["?P<", "?<"] then
    let index ← nextGroup
    groupName
    return .capture index
  else if ← accept "?" then
    let change ← modeChange false false (← fuel) []
    let last ← peek
    bump
    if last = ')' then
      require !change.isEmpty
      return .modes change
    else return .group change
  else return .capture (← nextGroup)

/-- Whether blanks are skipped after a change of modes. -/
def extendedAfter (change : ModeChange) (before : Bool) : Bool :=
  match change.find? fun entry => entry.1 = .extended with
  | some (_, on) => on
  | none => before

/-- The sequence of some patterns. -/
def sequenceOf (reversed : List Tree) : Tree :=
  match reversed with
  | [] => .empty
  | [part] => part
  | _ => .concatenation reversed.reverse

/-- The choice between some patterns. -/
def choiceOf (reversed : List Tree) : Tree :=
  match reversed with
  | [branch] => branch
  | _ => .alternation reversed.reverse

/-- The pattern that a repetition operator applies to, and the patterns before it. -/
def operand : List Tree → Read (Tree × List Tree)
  | [] | .modes _ :: _ => failure
  | body :: earlier => return (body, earlier)

/-- A question mark after a repetition operator makes it lazy. -/
def greedy : Read Bool := return !(← accept "?")

/-- A decimal number, among blanks, if there is one. It has at most 32 bits. -/
def decimal? : Read (Option Nat) := do
  modify fun cursor => { cursor with rest := cursor.rest.dropWhile Text.isBlank }
  let digits ← Read.takeWhile Char.isDigit (← fuel) []
  modify fun cursor => { cursor with rest := cursor.rest.dropWhile Text.isBlank }
  if digits.isEmpty then return none
  let value := digits.foldl (fun value digit => 10 * value + (digit.toNat - '0'.toNat)) 0
  require (value < UInt32.size)
  return some value

/-- The bounds of a repetition in braces. -/
def bounds : Read (Nat × Option Nat) := do
  bumpSkip
  let _ ← peek
  let least? ← decimal?
  let range ←
    if (← peek) = ',' then do
      bumpSkip
      let next ← peek
      match least? with
      | none => failure
      | some least =>
          if next = '}' then pure (least, none)
          else
            match ← decimal? with
            | none => failure
            | some most => pure (least, some most)
    else
      match least? with
      | none => failure
      | some least => pure (least, some least)
  require ((← peek) = '}')
  bumpSkip
  return range

/-- The bounds fit when the least is not above the most. -/
def boundsFit (least : Nat) (most? : Option Nat) : Bool := most?.all (least ≤ ·)

/-- The body of a group and its closing parenthesis. Whether blanks are skipped changes inside and
is restored behind. -/
def groupBody (before inside : Bool) (body : Read Tree) : Read Tree := do
  modify fun cursor => { cursor with extended := inside }
  let tree ← body
  require ((← peek) = ')')
  modify fun cursor => { cursor with extended := before }
  bump
  return tree

/-- The last of some patterns under a repetition operator of one character. -/
def uncounted (parts : List Tree) (least : Nat) (most? : Option Nat) : Read (List Tree) := do
  let (body, earlier) ← operand parts
  bump
  return .repetition least most? (← greedy) body :: earlier

/-- The last of some patterns under a repetition operator in braces. -/
def counted (parts : List Tree) : Read (List Tree) := do
  let (body, earlier) ← operand parts
  let (least, most?) ← bounds
  let greedy ← greedy
  require (boundsFit least most?)
  return .repetition least most? greedy body :: earlier

/-- A pattern of one plain character. -/
def plain (character : Char) : Tree :=
  match character with
  | '.' => .dot
  | '^' => .assertion .lineStart
  | '$' => .assertion .lineEnd
  | _ => .literal ⟨character, false⟩

/-- Branches up to the end of the text or a closing parenthesis, which is not passed. Branches and
their parts are kept in reverse. -/
def branches : (fuel levels : Nat) → (done parts : List Tree) → Read Tree
  | 0, _, _, _ => failure
  | fuel + 1, levels, done, parts => do
      skip
      match ← peek? with
      | none | some ')' => return choiceOf (sequenceOf parts :: done)
      | some '|' =>
          bump
          branches fuel levels (sequenceOf parts :: done) []
      | some '(' =>
          let before := (← get).extended
          let inner (inside : Bool) : Read Tree :=
            match levels with
            | 0 => failure
            | levels + 1 => groupBody before inside (branches fuel levels [] [])
          match ← opening with
          | .modes change =>
              modify fun cursor => { cursor with extended := extendedAfter change before }
              branches fuel levels done (.modes change :: parts)
          | .group change =>
              let body ← inner (extendedAfter change before)
              branches fuel levels done (.group change body :: parts)
          | .capture index =>
              let body ← inner before
              branches fuel levels done (.capture index body :: parts)
      | some '[' =>
          let (negated, inner) ← bracketed fuel levels
          branches fuel levels done (.bracketed negated inner :: parts)
      | some '?' => branches fuel levels done (← uncounted parts 0 (some 1))
      | some '*' => branches fuel levels done (← uncounted parts 0 none)
      | some '+' => branches fuel levels done (← uncounted parts 1 none)
      | some '{' => branches fuel levels done (← counted parts)
      | some '\\' => branches fuel levels done ((← escape) :: parts)
      | some character =>
          bump
          branches fuel levels done (plain character :: parts)

/-- The deepest nesting that a pattern may have. -/
def nestLimit : Nat := 250

end Read

/-- The pattern that a text writes. -/
def Tree.read? (text : Text) : Option Tree := do
  let (tree, cursor) ← Read.branches (2 * text.length + 2) Read.nestLimit [] [] ⟨text, false, [], 0⟩
  if cursor.rest.isEmpty && tree.depth ≤ Read.nestLimit then some tree else none

end Stencil.Pattern
