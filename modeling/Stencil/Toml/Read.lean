/-
This file reads configuration documents.
-/
import Stencil.Toml.Quoted
import Stencil.Toml.Scalar

namespace Stencil.Toml

/-- A reader moves over the text or fails. -/
abbrev Read := StateT Text Option

namespace Read

/-- The next character, if there is one. -/
def peek? : Read (Option Char) := return (← get).head?

/-- The next character is passed, if it is the given one. -/
def accept (character : Char) : Read Bool := do
  match ← get with
  | next :: rest =>
      if next = character then
        set rest
        return true
      else return false
  | [] => return false

/-- The next character must be the given one. -/
def expect (character : Char) : Read Unit := do
  if ← accept character then return
  failure

/-- Spaces and tabs are passed. -/
def spaces : Read Unit :=
  modify fun text => text.dropWhile fun character => character == ' ' || character == '\t'

/-- A line end is passed, if it is next. -/
def lineEnd : Read Bool := do
  match ← get with
  | '\n' :: rest | '\r' :: '\n' :: rest =>
      set rest
      return true
  | _ => return false

/-- A comment up to the end of its line is passed, if it is next. -/
def comment : Read Unit := do
  if (← peek?) = some '#' then
    modify fun text => text.dropWhile Quoted.isPlain

/-- Spaces, comments and line ends are passed. -/
def gap : (fuel : Nat) → Read Unit
  | 0 => failure
  | fuel + 1 => do
      spaces
      comment
      if ← lineEnd then gap fuel

/-- Enough fuel to pass every character that is left. -/
def fuel : Read Nat := return (← get).length + 1

/-- The characters of keys without quotes. -/
def isKeyPart (character : Char) : Bool :=
  character.isAlphanum || character == '_' || character == '-'

/-- One key, with or without quotes. -/
def key : Read Text := do
  let text ← get
  match text with
  | '"' :: _ | '\'' :: _ =>
      let (name, rest) ← liftM (Quoted.line? text)
      set rest
      return name
  | _ =>
      let name := text.takeWhile isKeyPart
      if name.isEmpty then failure
      set (text.drop name.length)
      return name

/-- Keys between dots, with spaces around them. -/
def path : (fuel : Nat) → Path → Read Path
  | 0, _ => failure
  | fuel + 1, reversed => do
      spaces
      let name ← key
      spaces
      if ← accept '.' then path fuel (name :: reversed)
      else return (name :: reversed).reverse

/-- How deep arrays and tables in braces may nest, and how many keys a path may have. -/
def nestLimit : Nat := 80

/-- A path, apart from its last key. -/
def splitPath : Path → Read (Path × Text)
  | [] => failure
  | path => if path.length ≤ nestLimit then return (path.dropLast, path.getLastD []) else failure

mutual

/-- A value. -/
def value : (fuel levels : Nat) → Read Value
  | 0, _ => failure
  | fuel + 1, levels => do
      let text ← get
      match text with
      | '"' :: _ | '\'' :: _ =>
          let (content, rest) ← liftM (Quoted.string? text)
          set rest
          return .string content
      | '[' :: rest =>
          match levels with
          | 0 => failure
          | levels + 1 =>
              set rest
              items fuel levels []
      | '{' :: rest =>
          match levels with
          | 0 => failure
          | levels + 1 =>
              set rest
              entries fuel levels (.table .header [])
      | _ =>
          let (written, rest) := Scalar.cut text
          let result ← liftM (Scalar.value? written)
          set rest
          return result

/-- The items of an array up to its closing bracket, in reverse. -/
def items : (fuel levels : Nat) → List Value → Read Value
  | 0, _, _ => failure
  | fuel + 1, levels, reversed => do
      gap (← Read.fuel)
      if ← accept ']' then return .array reversed.reverse
      let item ← value fuel levels
      gap (← Read.fuel)
      if ← accept ',' then items fuel levels (item :: reversed)
      else
        expect ']'
        return .array (item :: reversed).reverse

/-- The entries of a table in braces up to its closing brace. -/
def entries : (fuel levels : Nat) → Value → Read Value
  | 0, _, _ => failure
  | fuel + 1, levels, table => do
      gap (← Read.fuel)
      if ← accept '}' then return finished table
      let (parents, name) ← splitPath (← path (← Read.fuel) [])
      expect '='
      spaces
      let content ← value fuel levels
      let table ← liftM (Value.define parents name content table)
      gap (← Read.fuel)
      if ← accept ',' then entries fuel levels table
      else
        expect '}'
        return finished table
where
  /-- The table is closed for later additions. -/
  finished : Value → Value
    | .table _ entries => .table .inline entries
    | other => other

end

/-- A section is a header, if it has one, whether its table is one of several, and its table. -/
structure Section where
  header? : Option (Path × Text × Bool)
  table : Value

/-- The document with a finished section. -/
def closeSection (document : Value) (finished : Section) : Option Value :=
  match finished.header? with
  | none => some finished.table
  | some (path, name, true) => Value.closeRepeated path name finished.table document
  | some (path, name, false) => Value.close path name finished.table document

/-- A header opens a section. -/
def header (document : Value) : Read Section := do
  expect '['
  let repeated ← accept '['
  let (parents, name) ← splitPath (← path (← Read.fuel) [])
  expect ']'
  if repeated then
    expect ']'
    return ⟨some (parents, name, true), .table .header []⟩
  else
    let entries ← liftM (Value.opened? parents name document)
    return ⟨some (parents, name, false), .table .header entries⟩

/-- The rest of a line has a comment at most. -/
def endOfLine : Read Unit := do
  spaces
  comment
  if (← get).isEmpty then return
  if ← lineEnd then return
  failure

/-- The lines of a document, with its finished sections and the one that is open. -/
def lines : (fuel : Nat) → (document : Value) → Section → Read Value
  | 0, _, _ => failure
  | fuel + 1, document, current => do
      gap (← Read.fuel)
      match ← peek? with
      | none => liftM (closeSection document current)
      | some '[' =>
          let document ← liftM (closeSection document current)
          let next ← header document
          endOfLine
          lines fuel document next
      | some _ =>
          let (parents, name) ← splitPath (← path (← Read.fuel) [])
          expect '='
          spaces
          let content ← value (← Read.fuel) nestLimit
          let table ← liftM (Value.define parents name content current.table)
          endOfLine
          lines fuel document { current with table }

end Read

/-- The document that a text writes. A byte order mark may stand before it. -/
def read? (text : Text) : Option Value := do
  let text := match text with
    | '\uFEFF' :: rest => rest
    | _ => text
  let start : Value := .table .header []
  let (document, _) ← Read.lines (text.length + 1) start ⟨none, start⟩ text
  return document

end Stencil.Toml
