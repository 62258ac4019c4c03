/-
This file holds configuration documents and the rules by which their tables grow.
-/
import Stencil.Text.Basic

namespace Stencil.Toml

/-- How a table came about. -/
inductive Origin where
  /-- The table has a header of its own, or is the document. -/
  | header
  /-- The table was passed by the header of another. -/
  | passed
  /-- The table was made by a dotted key. -/
  | dotted
  /-- The table was written in braces. -/
  | inline
  deriving Repr, DecidableEq

/-- A dotted key takes over the tables that it passes, unless they have headers of their own. -/
def Origin.take (dotted : Bool) : Origin → Origin
  | .passed => if dotted then .dotted else .passed
  | origin => origin

/-- A value of a document. Numbers and moments that no caller reads keep their text. -/
inductive Value where
  | string (text : Text)
  | integer (value : Int)
  | float (text : Text)
  | boolean (value : Bool)
  | moment (text : Text)
  | array (items : List Value)
  | tables (items : List Value)
  | table (origin : Origin) (entries : List (Text × Value))
  deriving Repr

/-- A path is a dotted key. -/
abbrev Path := List Text

namespace Value

/-- The value of a key. -/
def lookup? (key : Text) (entries : List (Text × Value)) : Option Value :=
  (entries.find? fun entry => entry.1 = key).map Prod.snd

/-- The entries with another value for a key. A new key comes last. -/
def replace (key : Text) (value : Value) : List (Text × Value) → List (Text × Value)
  | [] => [(key, value)]
  | entry :: rest =>
      if entry.1 = key then (key, value) :: rest else entry :: replace key value rest

/-- A table changes at the end of a path. Tables that are missing on the way are made. Dotted keys
may only pass tables without a header, and nothing passes a table in braces. Of several tables
under one key, the last is passed. -/
def alter (dotted : Bool) (change : Value → Option Value) : Path → Value → Option Value
  | [], value => change value
  | key :: path, .table origin entries => do
      let inner ←
        match lookup? key entries with
        | none => alter dotted change path (.table (if dotted then .dotted else .passed) [])
        | some (.table innerOrigin innerEntries) =>
            if innerOrigin = .inline || (dotted && innerOrigin = .header) then none
            else alter dotted change path (.table (innerOrigin.take dotted) innerEntries)
        | some (.tables items) =>
            match items.getLast? with
            | none => none
            | some last => do
                let changed ← alter dotted change path last
                return .tables (items.dropLast ++ [changed])
        | some _ => none
      return .table origin (replace key inner entries)
  | _ :: _, _ => none

/-- A value gets a key in the table at the end of a dotted path. The key must be new, and a table
that a dotted path leads to must be made by dotted keys only. -/
def define (path : Path) (key : Text) (value : Value) (table : Value) : Option Value :=
  alter true (fun parent =>
    match parent with
    | .table origin entries =>
        if (origin == .dotted) == path.isEmpty || (lookup? key entries).isSome then none
        else some (.table origin (entries ++ [(key, value)]))
    | _ => none) path table

/-- The entries that a table with a header starts with. Only a table that other headers passed may
get a header later. -/
def opened? (path : Path) (key : Text) (document : Value) : Option (List (Text × Value)) :=
  match path, document with
  | [], .table _ entries =>
      match lookup? key entries with
      | none => some []
      | some (.table .passed inner) => some inner
      | some _ => none
  | first :: path, .table _ entries =>
      match lookup? first entries with
      | none => some []
      | some (.tables items) =>
          match items.getLast? with
          | none => none
          | some last => opened? path key last
      | some inner => opened? path key inner
  | _, _ => none

/-- A finished table is put under its header. -/
def close (path : Path) (key : Text) (table : Value) (document : Value) : Option Value :=
  alter false (fun parent =>
    match parent with
    | .table origin entries => some (.table origin (replace key table entries))
    | _ => none) path document

/-- A finished table is added to the tables under its header. -/
def closeRepeated (path : Path) (key : Text) (table : Value) (document : Value) : Option Value :=
  alter false (fun parent =>
    match parent with
    | .table origin entries =>
        match lookup? key entries with
        | none => some (.table origin (entries ++ [(key, .tables [table])]))
        | some (.tables items) => some (.table origin (replace key (.tables (items ++ [table])) entries))
        | some _ => none
    | _ => none) path document

end Value

end Stencil.Toml
