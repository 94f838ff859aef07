import FieldRules.Value.Basic
import FieldRules.Json.Printer

/-!
# Values as documents and as text

Values and JSON documents convert into each other.  Every document is the document of some value;
a value of a form that JSON lacks becomes the nearest document: bytes a list of numbers, a number
that is not finite `null`, a custom value its type name in angle brackets.

The display form of a value is the text of a scalar as it stands, and the compact document of
everything else.
-/

namespace FieldRules.Value

mutual

/-- The document of a value. -/
def toJson : Value → Json
  | .null => .null
  | .bool b => .bool b
  | .int i => .ofInt64 i
  | .uint u => .ofUInt64 u
  | .float x => .ofFloat x
  | .text s => .string s
  | .bytes b => .array (b.map fun byte => .ofUInt64 byte.toUInt64)
  | .list items => .array (toJsonItems items)
  | .map entries => .object (toJsonEntries entries)
  | .custom c => .string ("<" ++ c.typeName ++ ">")

def toJsonItems : List Value → List Json
  | [] => []
  | v :: rest => toJson v :: toJsonItems rest

def toJsonEntries : List (String × Value) → List (String × Json)
  | [] => []
  | (k, v) :: rest => (k, toJson v) :: toJsonEntries rest

end

/-- The value of a number: an integer is signed when it can be. -/
def ofJsonNumber : Json.Number → Value
  | .integer n _ =>
    if n < 9223372036854775808 then .int (Int64.ofInt n) else .uint (UInt64.ofNat n.toNat)
  | .float x _ => .float x

mutual

/-- The value of a document. -/
def ofJson : Json → Value
  | .null => .null
  | .bool b => .bool b
  | .number n => ofJsonNumber n
  | .string s => .text s
  | .array items => .list (ofJsonItems items)
  | .object entries => .map (ofJsonEntries entries)

def ofJsonItems : List Json → List Value
  | [] => []
  | j :: rest => ofJson j :: ofJsonItems rest

def ofJsonEntries : List (String × Json) → List (String × Value)
  | [] => []
  | (k, j) :: rest => (k, ofJson j) :: ofJsonEntries rest

end

/-- The text of a value. -/
def display : Value → String
  | .null => "null"
  | .bool true => "true"
  | .bool false => "false"
  | .int i => toString i.toInt
  | .uint u => toString u.toNat
  | .float x => x.plainText
  | .text s => s
  | v => v.toJson.compact

end FieldRules.Value
