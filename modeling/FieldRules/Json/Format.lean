import FieldRules.Format
import FieldRules.Json.Reader

/-!
# Structures in JSON

A structure is read from an object, and also from an array that lists its parts in their order and
may stop early.  A text is read from a string only.
-/

namespace FieldRules.Json

/-- The parts of a structure. -/
def parts? (names : List String) : Json → Option (List (String × Json))
  | .object entries => Format.partsOfEntries? names entries
  | .array items => if items.length ≤ names.length then some (names.zip items) else none
  | _ => none

/-- The items of an array. -/
def items? : Json → Option (List Json)
  | .array items => some items
  | _ => none

/-- The entries of an object. -/
def entries? : Json → Option (List (String × Json))
  | .object entries => some entries
  | _ => none

/-- A string. -/
def text? : Json → Option String
  | .string s => some s
  | _ => none

/-- A truth value. -/
def bool? : Json → Option Bool
  | .bool b => some b
  | _ => none

/-- Whether a document is null. -/
def isNull : Json → Bool
  | .null => true
  | _ => false

/-- How JSON documents are taken apart. -/
def format : Format Json where
  parts? := parts?
  items? := items?
  entries? := entries?
  text? := text?
  bool? := bool?
  isNull := isNull
  json? j := some j.normalize

end FieldRules.Json
