import FieldRules.FieldType

/-!
# Records

A record is a list of named attributes.  A plain attribute is a slot of some type; a nested
attribute is a record of its own, either embedded, as if its attributes were the outer record's, or
named.  Record types and records have the same shape: the one holds a slot at each plain attribute,
the other a slot with its content.

Attributes are found by name, and of two with one name the first is found.

## Main definitions

* `Shape` — the common form of record types and records.
* `RecordType`, `Record`.
* `Record.get?`, `Record.set`, `Record.snapshot`.
-/

namespace FieldRules

/-- How a nested record relates to the one around it. -/
inductive Nesting where
  | embedded
  | named
  deriving DecidableEq, Repr

/-- What an attribute is declared with. -/
structure Declaration where
  name : String
  kind : Kind
  isOptional : Bool
  isExported : Bool
  tags : List (String × String)
  deriving DecidableEq, Repr

/-- The first tag with a key. -/
def Declaration.tag? (d : Declaration) (key : String) : Option String := d.tags.lookup key

/-- A method computes a value from what the attributes of a record read as. -/
structure Method where
  name : String
  body : (String → Option Value) → Value

/-- What is known of a record type besides its attributes.  Two types may have one name; their keys
tell them apart. -/
structure TypeInfo where
  key : String
  name : String
  methods : List Method

/-- An attribute with something at each plain attribute. -/
inductive Attribute (α : Type) where
  | plain (declaration : Declaration) (content : α)
  | nested (declaration : Declaration) (nesting : Nesting) (info : TypeInfo)
    (attributes : List (Attribute α))

/-- The common form of record types and records. -/
structure Shape (α : Type) where
  info : TypeInfo
  attributes : List (Attribute α)

namespace Attribute

variable {α β : Type}

/-- What an attribute is declared with. -/
def declaration : Attribute α → Declaration
  | .plain d _ => d
  | .nested d _ _ _ => d

/-- The name of an attribute. -/
def name (a : Attribute α) : String := a.declaration.name

/-- The nested record of an attribute. -/
def child? : Attribute α → Option (Shape α)
  | .plain _ _ => none
  | .nested _ _ info attributes => some ⟨info, attributes⟩

mutual

/-- Changes what stands at each plain attribute. -/
def map (f : α → β) : Attribute α → Attribute β
  | .plain d a => .plain d (f a)
  | .nested d n info attributes => .nested d n info (mapAll f attributes)

def mapAll (f : α → β) : List (Attribute α) → List (Attribute β)
  | [] => []
  | a :: rest => map f a :: mapAll f rest

end

end Attribute

namespace Shape

variable {α β : Type}

/-- The first attribute of a name. -/
def find? (s : Shape α) (name : String) : Option (Attribute α) :=
  s.attributes.find? fun a => a.name == name

/-- The nested record of a name. -/
def child? (s : Shape α) (name : String) : Option (Shape α) :=
  (s.find? name).bind Attribute.child?

/-- Changes what stands at each plain attribute. -/
def map (f : α → β) (s : Shape α) : Shape β := ⟨s.info, Attribute.mapAll f s.attributes⟩

end Shape

/-- A place for a value.  A slot that cannot be read answers nothing, and one that cannot be set
refuses every value. -/
structure Slot where
  type : FieldType
  isReadable : Bool
  isSettable : Bool
  deriving DecidableEq, Repr

/-- A slot with its content. -/
structure Cell where
  slot : Slot
  content : slot.type.Content

/-- The slot with the zero of its type. -/
def Slot.zeroCell (s : Slot) : Cell := ⟨s, s.type.zero⟩

/-- The value of a cell, if it can be read. -/
def Cell.read? (c : Cell) : Option Value :=
  if c.slot.isReadable then some (c.slot.type.toValue c.content) else none

/-- The type of a record: a slot at each plain attribute. -/
abbrev RecordType := Shape Slot

/-- A record: a cell at each plain attribute. -/
abbrev Record := Shape Cell

/-- The record in which every slot holds the zero of its type. -/
def RecordType.zero (t : RecordType) : Record := t.map Slot.zeroCell

/-- Why an attribute cannot be written. -/
inductive SlotError where
  /-- There is no attribute of that name. -/
  | missing
  /-- The attribute cannot be assigned. -/
  | unsettable
  /-- The value does not convert to the attribute's type. -/
  | coerce (misfit : Misfit)
  deriving DecidableEq

/-- How a failed write is told. -/
def SlotError.message : SlotError → String
  | .missing => "no such field"
  | .unsettable => "field cannot be set"
  | .coerce misfit => misfit.message

namespace Record

/-- The type of a record. -/
def type (r : Record) : RecordType := r.map Cell.slot

/-! ## Snapshots -/

/-- What one attribute contributes to a snapshot: how it reads when it is plain, and the snapshot
of its record when it is nested. -/
structure View where
  declaration : Declaration
  isNested : Bool
  reading : Option Value
  inner : Option Value

/-- The snapshot of attributes by their views.  Each exported attribute is looked up by its name, so
of two with one name the first answers for both; what cannot be read is absent. -/
def assemble (views : List View) : Value :=
  .map (Dict.ofList (views.filterMap fun v =>
    if v.declaration.isExported then
      let found := views.find? fun w => w.declaration.name == v.declaration.name
      let value := found.bind fun w => if v.isNested then w.inner else w.reading
      some (v.declaration.name, value.getD .null)
    else none))

mutual

/-- The view of an attribute.  A nested record reads as its snapshot. -/
def view : Attribute Cell → View
  | .plain d c => ⟨d, false, c.read?, none⟩
  | .nested d _ _ attributes =>
    let inner := some (assemble (views attributes))
    ⟨d, true, inner, inner⟩

def views : List (Attribute Cell) → List View
  | [] => []
  | a :: rest => view a :: views rest

end

/-- The exported attributes of a record as a map, nested records as maps inside it. -/
def snapshot (r : Record) : Value := assemble (views r.attributes)

/-! ## Attributes by name -/

/-- The value of an attribute; a nested record reads as its snapshot. -/
def get? (r : Record) (name : String) : Option Value :=
  (r.find? name).bind fun a => (view a).reading

/-- Writes an attribute among others. -/
def setIn (name : String) (v : Value) :
    List (Attribute Cell) → Except SlotError (List (Attribute Cell))
  | [] => .error .missing
  | a :: rest =>
    if a.name = name then
      match a with
      | .plain d c =>
        if c.slot.isSettable then
          match c.slot.type.ofValue v with
          | .ok content => .ok (.plain d ⟨c.slot, content⟩ :: rest)
          | .error misfit => .error (.coerce misfit)
        else .error .unsettable
      | .nested _ _ _ _ => .error .unsettable
    else (setIn name v rest).map (a :: ·)

/-- Writes an attribute, converting the value to its type. -/
def set (r : Record) (name : String) (v : Value) : Except SlotError Record :=
  (setIn name v r.attributes).map fun attributes => ⟨r.info, attributes⟩

/-- Calls a method. -/
def call? (r : Record) (method : String) : Option Value :=
  (r.info.methods.find? fun m => m.name == method).map fun m => m.body r.get?

end Record

end FieldRules
