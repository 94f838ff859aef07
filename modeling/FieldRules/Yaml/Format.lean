import FieldRules.Format
import FieldRules.Yaml.Schema

/-!
# Structures in YAML

A structure is read from a mapping.  A text is read from any scalar, as it is written, and so are
keys.  A part that is left out stands for a collection without parts as well as for null.
-/

namespace FieldRules.Yaml.Node

/-- The entries of a mapping. -/
def entries? : Node → Option (List (String × Node))
  | .mapping entries => some entries
  | .scalar true "" => some []
  | _ => none

/-- The items of a sequence. -/
def items? : Node → Option (List Node)
  | .sequence items => some items
  | .scalar true "" => some []
  | _ => none

/-- A truth value. -/
def bool? : Node → Option Bool
  | .scalar true text => boolOfText? text
  | _ => none

/-- Whether a document is null. -/
def isNull : Node → Bool
  | .scalar true text => isNullText text
  | _ => false

/-- How YAML documents are taken apart. -/
def format : Format Node where
  parts? names x := x.entries?.bind (Format.partsOfEntries? names)
  items? := items?
  entries? := entries?
  text? := text?
  bool? := bool?
  isNull := isNull
  json? x := x.json?.map Json.normalize

end FieldRules.Yaml.Node
