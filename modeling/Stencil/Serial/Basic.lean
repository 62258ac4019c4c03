/-
This file holds the data trees in which results are stored.
-/
import Stencil.Text.Basic

namespace Stencil

/-- A data tree. The fields of a record are distinct, and their order has no meaning. -/
inductive Serial where
  | null
  | boolean (value : Bool)
  | number (value : Nat)
  | text (value : Text)
  | list (items : List Serial)
  | record (fields : List (Text × Serial))
  deriving Repr

namespace Serial

/-- A record whose field names are given as literals. -/
def fields (entries : List (String × Serial)) : Serial :=
  .record (entries.map fun entry => (entry.1.toList, entry.2))

/-- A case without data is its name. -/
def bareCase (name : String) : Serial := .text name.toList

/-- A case with data is a record of one field. -/
def caseOf (name : String) (data : Serial) : Serial := fields [(name, data)]

/-- The list of the trees of some items. -/
def ofList {Item : Type} (encode : Item → Serial) (items : List Item) : Serial :=
  .list (items.map encode)

/-- The tree of an item that may be missing. -/
def ofOption {Item : Type} (encode : Item → Serial) : Option Item → Serial
  | none => .null
  | some item => encode item

end Serial

end Stencil
