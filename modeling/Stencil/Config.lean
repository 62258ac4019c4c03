/-
This file holds configurations: their reading from a document and their discovery among files.
-/
import Stencil.Error
import Stencil.Markers
import Stencil.Toml.Read

namespace Stencil

/-- A configuration has the marker words. -/
structure Config where
  markers : Markers := .standard
  deriving DecidableEq

namespace Config

/-- The three words of a configuration before they are checked. -/
structure Words where
  regionStart : Text
  regionEnd : Text
  template : Text

/-- The words of a configuration that says nothing. -/
def Words.standard : Words :=
  ⟨Markers.standard.regionStart, Markers.standard.regionEnd, Markers.standard.template⟩

/-- The markers with some words. Each must be a word, and the first two must differ. -/
def Words.markers (words : Words) : Except ConfigFault Markers :=
  if startIsWord : Text.isWord words.regionStart then
    if endIsWord : Text.isWord words.regionEnd then
      if templateIsWord : Text.isWord words.template then
        if startNeEnd : words.regionStart ≠ words.regionEnd then
          .ok ⟨words.regionStart, words.regionEnd, words.template, startIsWord, endIsWord,
            templateIsWord, startNeEnd⟩
        else .error .sameWords
      else .error (.notWord .template words.template)
    else .error (.notWord .regionEnd words.regionEnd)
  else .error (.notWord .regionStart words.regionStart)

/-- A word that is missing has a default. One that is there must be a string. -/
def wordOr (missing : Text) : Option Toml.Value → Option Text
  | none => some missing
  | some (.string text) => some text
  | some _ => none

/-- The words by their keys, or in order. A moment has no words. -/
def words? : Toml.Value → Option Words
  | .table _ entries => do
      let word (field : MarkerField) (missing : Text) : Option Text :=
        wordOr missing (Toml.Value.lookup? field.key entries)
      return ⟨← word .regionStart Words.standard.regionStart,
        ← word .regionEnd Words.standard.regionEnd, ← word .template Words.standard.template⟩
  | .array items => do
      return ⟨← wordOr Words.standard.regionStart items[0]?,
        ← wordOr Words.standard.regionEnd items[1]?, ← wordOr Words.standard.template items[2]?⟩
  | .tables items => if items.isEmpty then some .standard else none
  | .moment _ => some .standard
  | _ => none

/-- The words of a document stand under `markers`. -/
def ofDocument? : Toml.Value → Option Words
  | .table _ entries =>
      match Toml.Value.lookup? "markers".toList entries with
      | none => some .standard
      | some value => words? value
  | _ => none

/-- The configuration that a text writes. -/
def ofText (text : Text) : Except Error Config :=
  match (Toml.read? text).bind ofDocument? with
  | none => .error (.config .malformed)
  | some words =>
      match words.markers with
      | .error fault => .error (.config fault)
      | .ok markers => .ok ⟨markers⟩

/-- A file has its path and its bytes. -/
structure File where
  path : Text
  bytes : ByteArray

/-- The paths where a configuration is looked for, in order. -/
def candidates : List Text :=
  ["regtpl.toml".toList, ".regtpl.toml".toList, ".config/regtpl.toml".toList]

/-- The first candidate among some files. Of several files with one path, the last is there. -/
def discover? (files : List File) : Option File :=
  candidates.findSome? fun candidate => files.reverse.find? fun file => file.path = candidate

/-- The configuration of the file that is discovered. -/
def load? (files : List File) : Except Error (Option Config) :=
  match discover? files with
  | none => .ok none
  | some file =>
      match String.fromUTF8? file.bytes with
      | none => .error .notUtf8
      | some content => (ofText content.toList).map some

end Config

end Stencil
