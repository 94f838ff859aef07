import FieldRules.Value.Coercion

/-!
# Types of attributes

The types that an attribute can be declared with form a small universe: truth values, integers of
four widths with and without sign, two floating widths, text, any value, and optionals, lists and
dictionaries of these.  Each type has the contents it stores, a kind, a zero, and conversions from
and to values.

## Main definitions

* `FieldType.Content` — what an attribute of the type stores.
* `FieldType.toValue`, `FieldType.ofValue` — the two conversions.
-/

namespace FieldRules

open Number (Binary64)

/-- The width of an integer, in bits. -/
inductive Width where
  | w8
  | w16
  | w32
  | w64
  deriving DecidableEq, Repr

/-- The number of bits. -/
def Width.bits : Width → Nat
  | .w8 => 8
  | .w16 => 16
  | .w32 => 32
  | .w64 => 64

/-- How many integers of a width are negative: the signed ones lie from the opposite of this number
up to it. -/
def Width.half : Width → Nat
  | .w8 => 128
  | .w16 => 32768
  | .w32 => 2147483648
  | .w64 => 9223372036854775808

/-- The type of an attribute. -/
inductive FieldType where
  | bool
  | int (width : Width)
  | uint (width : Width)
  | single
  | double
  | text
  | any
  | optional (item : FieldType)
  | list (item : FieldType)
  | dict (item : FieldType)
  deriving DecidableEq, Repr

namespace FieldType

/-- Signed integers of a width. -/
def Signed (width : Width) : Type :=
  { i : Int64 // -(width.half : Int) ≤ i.toInt ∧ i.toInt < width.half }

/-- Unsigned integers of a width. -/
def Unsigned (width : Width) : Type := { u : UInt64 // u.toNat < 2 * width.half }

/-- What an attribute of a type stores.  A number of single precision is stored as the wider number
that equals it. -/
def Content : FieldType → Type
  | .bool => Bool
  | .int width => Signed width
  | .uint width => Unsigned width
  | .single => Binary64
  | .double => Binary64
  | .text => String
  | .any => Value
  | .optional item => Option item.Content
  | .list item => List item.Content
  | .dict item => List (String × item.Content)

/-- The kind of attributes of the type; an optional is of the kind of what it may hold. -/
def kind : FieldType → Kind
  | .bool => .bool
  | .int _ => .int
  | .uint _ => .uint
  | .single => .float
  | .double => .float
  | .text => .text
  | .any => .any
  | .optional item => item.kind
  | .list _ => .list
  | .dict _ => .map

/-- Whether attributes of the type may be absent. -/
def isOptional : FieldType → Bool
  | .optional _ => true
  | _ => false

/-- What an attribute of the type stores at first. -/
def zero : (t : FieldType) → t.Content
  | .bool => false
  | .int width => ⟨0, by cases width <;> decide⟩
  | .uint width => ⟨0, by cases width <;> decide⟩
  | .single => Binary64.zero false
  | .double => Binary64.zero false
  | .text => ""
  | .any => Value.null
  | .optional _ => none
  | .list _ => []
  | .dict _ => []

/-- The value of what an attribute stores. -/
def toValue : (t : FieldType) → t.Content → Value
  | .bool => fun b => .bool b
  | .int _ => fun i => .int i.val
  | .uint _ => fun u => .uint u.val
  | .single => fun x => .float x
  | .double => fun x => .float x
  | .text => fun s => .text s
  | .any => fun v => v
  | .optional item => fun o =>
    match o with
    | none => .null
    | some c => toValue item c
  | .list item => fun cs => .list (cs.map (toValue item))
  | .dict item => fun es => .map (es.map fun e => (e.1, toValue item e.2))

/-- What an attribute stores for a value, converting it where nothing is lost. -/
def ofValue : (t : FieldType) → Value → Except Misfit t.Content
  | .bool => fun v => do
    match ← v.coerce .bool false with
    | .bool b => .ok b
    | other => .error (.unexpected .bool other.typeName)
  | .int width => fun v => do
    match ← v.coerce .int false with
    | .int i =>
      if h : -(width.half : Int) ≤ i.toInt ∧ i.toInt < width.half then .ok ⟨i, h⟩
      else .error (.tooWide (toString i.toInt) ("i" ++ toString width.bits))
    | other => .error (.unexpected .int other.typeName)
  | .uint width => fun v => do
    match ← v.coerce .uint false with
    | .uint u =>
      if h : u.toNat < 2 * width.half then .ok ⟨u, h⟩
      else .error (.tooWide (toString u.toNat) ("u" ++ toString width.bits))
    | other => .error (.unexpected .uint other.typeName)
  | .single => fun v => do
    match ← v.coerce .float false with
    | .float x => .ok x.toSingle
    | other => .error (.unexpected .float other.typeName)
  | .double => fun v => do
    match ← v.coerce .float false with
    | .float x => .ok x
    | other => .error (.unexpected .float other.typeName)
  | .text => fun v => do
    match ← v.coerce .text false with
    | .text s => .ok s
    | other => .error (.unexpected .text other.typeName)
  | .any => fun v => .ok v
  | .optional item => fun v => if v.isNull then .ok none else (ofValue item v).map some
  | .list item => fun v => do
    match ← v.coerce .list false with
    | .list items => items.mapM (ofValue item)
    | other => .error (.unexpected .list other.typeName)
  | .dict item => fun v => do
    match ← v.coerce .map false with
    | .map entries => entries.mapM fun e => (ofValue item e.2).map fun c => (e.1, c)
    | other => .error (.unexpected .map other.typeName)

end FieldType

end FieldRules
