/-!
# Kinds of attributes

The declared kind of an attribute says which values it stores.  `record` stands for a nested
record, which is carried by a map of its attributes, and `any` accepts every value as it is.
-/

namespace FieldRules

/-- What an attribute is declared to hold. -/
inductive Kind where
  | bool
  | int
  | uint
  | float
  | text
  | bytes
  | list
  | map
  | record
  | custom
  | any
  deriving DecidableEq, Repr

namespace Kind

/-- The name of a kind. -/
def name : Kind → String
  | .bool => "bool"
  | .int => "int"
  | .uint => "uint"
  | .float => "float"
  | .text => "text"
  | .bytes => "bytes"
  | .list => "list"
  | .map => "map"
  | .record => "record"
  | .custom => "custom"
  | .any => "any"

/-- All kinds. -/
def all : List Kind :=
  [.bool, .int, .uint, .float, .text, .bytes, .list, .map, .record, .custom, .any]

/-- The kind of a name. -/
def ofName? (s : String) : Option Kind := all.find? fun k => k.name == s

theorem ofName?_name (k : Kind) : ofName? k.name = some k := by
  cases k <;> decide

end Kind

end FieldRules
