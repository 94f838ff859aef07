import FieldRules.Dict
import FieldRules.Kind
import FieldRules.Number.Binary64

/-!
# Values

The data that flows between records, constraints and tools.  Integers and floating numbers of any
width are carried at sixty-four bits, an absent optional is `null`, and a value of a type that the
library does not know is a `Custom`, of which only an identity, a type name and whether it counts
as zero can be seen.

## Main definitions

* `Value.eq` — equality: same form and same content, floating numbers as numbers, custom values by
  identity.
* `Value.same` — equality that treats all numbers as one family.
* `Kind.zero` — the zero value of an attribute.
-/

namespace FieldRules

open Number (Binary64)

/-- A value of a type of its own, seen from outside. -/
structure Custom where
  identity : Nat
  typeName : String
  isZero : Bool
  deriving DecidableEq

/-- A value. -/
inductive Value where
  | null
  | bool (b : Bool)
  | int (i : Int64)
  | uint (u : UInt64)
  | float (x : Binary64)
  | text (s : String)
  | bytes (b : List UInt8)
  | list (items : List Value)
  | map (entries : List (String × Value))
  | custom (c : Custom)

/-- A number of any width. -/
inductive Numeric where
  | int (i : Int64)
  | uint (u : UInt64)
  | float (x : Binary64)

namespace Numeric

/-- The number as an integer, when it is of an integer width. -/
def toInt? : Numeric → Option Int
  | .int i => some i.toInt
  | .uint u => some u.toNat
  | .float _ => none

/-- The nearest floating number. -/
def toBinary64 : Numeric → Binary64
  | .int i => Binary64.ofInt i.toInt
  | .uint u => Binary64.ofNat u.toNat
  | .float x => x

/-- Integers compare exactly; as soon as one side is floating, both are compared as floating
numbers, and not at all when one is not a number. -/
def compare? (a b : Numeric) : Option Ordering :=
  match a.toInt?, b.toInt? with
  | some x, some y => some (compare x y)
  | _, _ => a.toBinary64.compare? b.toBinary64

end Numeric

namespace Value

instance : Inhabited Value := ⟨.null⟩

/-- Whether the value is an absent optional. -/
def isNull : Value → Bool
  | .null => true
  | _ => false

/-- Whether the value is the zero of its form: nothing, false, a zero, or something empty. -/
def isZero : Value → Bool
  | .null => true
  | .bool b => !b
  | .int i => i == 0
  | .uint u => u == 0
  | .float x => x.isZero
  | .text s => s.isEmpty
  | .bytes b => b.isEmpty
  | .list items => items.isEmpty
  | .map entries => entries.isEmpty
  | .custom c => c.isZero

/-- The text of a text. -/
def text? : Value → Option String
  | .text s => some s
  | _ => none

/-- The truth value of a truth value. -/
def bool? : Value → Option Bool
  | .bool b => some b
  | _ => none

/-- The value as a signed integer, when it is an integer that fits one. -/
def int64? : Value → Option Int64
  | .int i => some i
  | .uint u => if u.toNat < 9223372036854775808 then some (Int64.ofNat u.toNat) else none
  | _ => none

/-- The number of a number. -/
def numeric? : Value → Option Numeric
  | .int i => some (.int i)
  | .uint u => some (.uint u)
  | .float x => some (.float x)
  | _ => none

/-- How many characters, bytes, items or entries a value has. -/
def size? : Value → Option Nat
  | .text s => some s.length
  | .bytes b => some b.length
  | .list items => some items.length
  | .map entries => some entries.length
  | _ => none

/-- Whether a value that has a size has size zero. -/
def isEmpty (v : Value) : Bool := v.size? == some 0

/-- The name of the value's form, or of its type when that is of its own. -/
def typeName : Value → String
  | .null => "null"
  | .bool _ => "bool"
  | .int _ => "int"
  | .uint _ => "uint"
  | .float _ => "float"
  | .text _ => "text"
  | .bytes _ => "bytes"
  | .list _ => "list"
  | .map _ => "map"
  | .custom c => c.typeName

mutual

/-- Equality of values.  Numbers of different forms differ, what is not a number equals nothing,
and custom values are equal when they are the same one. -/
def eq : Value → Value → Bool
  | .null, .null => true
  | .bool a, .bool b => a == b
  | .int a, .int b => a == b
  | .uint a, .uint b => a == b
  | .float a, .float b => a.numEq b
  | .text a, .text b => a == b
  | .bytes a, .bytes b => a == b
  | .list a, .list b => eqItems a b
  | .map a, .map b => eqEntries a b
  | .custom a, .custom b => a.identity == b.identity
  | _, _ => false

def eqItems : List Value → List Value → Bool
  | [], [] => true
  | a :: as, b :: bs => eq a b && eqItems as bs
  | _, _ => false

def eqEntries : List (String × Value) → List (String × Value) → Bool
  | [], [] => true
  | (k, a) :: as, (l, b) :: bs => k == l && eq a b && eqEntries as bs
  | _, _ => false

end

/-- Equality that treats numbers of all widths as one family. -/
def same (a b : Value) : Bool :=
  match a.numeric?, b.numeric? with
  | some x, some y => x.compare? y == some .eq
  | _, _ => a.eq b

end Value

/-- The zero value of an attribute: absent when it is optional, and for the kinds that have no zero
of their own. -/
def Kind.zero (kind : Kind) (isOptional : Bool) : Value :=
  if isOptional then .null
  else match kind with
    | .bool => .bool false
    | .int => .int 0
    | .uint => .uint 0
    | .float => .float (Binary64.zero false)
    | .text => .text ""
    | .bytes => .bytes []
    | .list => .list []
    | .map => .map []
    | .record => .null
    | .custom => .null
    | .any => .null

end FieldRules
