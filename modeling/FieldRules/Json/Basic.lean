import FieldRules.Dict
import FieldRules.Number.Binary64

/-!
# JSON documents

A document is a tree of the six JSON forms.  A number is either an integer that fits sixty-four
bits, signed or unsigned, or a finite floating number; the two never meet, so `1` and `1.0` are
different documents.  An object lists its entries; `normalize` puts them in the order of their
keys, the last entry of a key winning, which is how every document is kept once it has been read.
-/

namespace FieldRules

/-- A number of a JSON document. -/
inductive Json.Number where
  /-- An integer from `-2 ^ 63` up to `2 ^ 64`. -/
  | integer (n : Int) (fits : -9223372036854775808 ≤ n ∧ n < 18446744073709551616)
  | float (x : Number.Binary64) (finite : x.isFinite = true)

/-- A JSON document. -/
inductive Json where
  | null
  | bool (b : Bool)
  | number (n : Json.Number)
  | string (s : String)
  | array (items : List Json)
  | object (entries : List (String × Json))

namespace Json

instance : Inhabited Json := ⟨.null⟩

/-- A signed integer as a document. -/
def ofInt64 (i : Int64) : Json :=
  .number (.integer i.toInt ⟨i.le_toInt, by have := i.toInt_lt; omega⟩)

/-- An unsigned integer as a document. -/
def ofUInt64 (u : UInt64) : Json :=
  .number (.integer u.toNat ⟨by omega, by have := u.toNat_lt; omega⟩)

/-- A floating number as a document; `null` stands for what JSON cannot write. -/
def ofFloat (x : Number.Binary64) : Json :=
  if h : x.isFinite = true then .number (.float x h) else .null

/-- A document of named parts, in the order of their names. -/
def ofParts (parts : List (String × Json)) : Json := .object (Dict.ofList parts)

mutual

/-- The same document with every object in the order of its keys and no key twice. -/
def normalize : Json → Json
  | .array items => .array (normalizeItems items)
  | .object entries => .object (Dict.ofList (normalizeEntries entries))
  | j => j

def normalizeItems : List Json → List Json
  | [] => []
  | j :: rest => normalize j :: normalizeItems rest

def normalizeEntries : List (String × Json) → List (String × Json)
  | [] => []
  | (k, j) :: rest => (k, normalize j) :: normalizeEntries rest

end

end Json

end FieldRules
