import FieldRules.Access
import FieldRules.Record.Path

/-!
# Fields

A field is a plain attribute as the tools see it: where it is, what it is called outside, what its
tags say, and what its zero is.

## Main definitions

* `Field` — the description of a field.
* `Field.read?`, `Field.store` — its value in a record.
-/

namespace FieldRules

/-- The description of a field. -/
structure Field where
  name : String
  location : String
  externalName : String
  kind : Kind
  isOptional : Bool
  tags : List (String × String)
  /-- The access mask, if the field has an access tag. -/
  access : Option AccessMask
  /-- Whether the caller may always supply the field. -/
  isProvided : Bool
  /-- The default directive as it is written. -/
  default? : Option String
  /-- Whether the default is only for a field that is zero. -/
  bypassIfSet : Bool
  zero : Value
  /-- Whether the field lies in a named nested record. -/
  isNested : Bool
  /-- Whether the field carries an id tag. -/
  isId : Bool

namespace Field

/-- The field at a location without any tags. -/
def untagged (location : String) (kind : Kind) (isOptional : Bool) : Field :=
  let name := (splitLocation location).2
  { name := name, location := location, externalName := name, kind := kind,
    isOptional := isOptional, tags := [], access := none, isProvided := false, default? := none,
    bypassIfSet := false, zero := kind.zero isOptional, isNested := false, isId := false }

/-- The first tag with a key. -/
def tag? (f : Field) (key : String) : Option String := f.tags.lookup key

/-- The value of a field in a record. -/
def read? (f : Field) (r : Record) : Option Value := r.readPath? f.location

/-- Whether a field is zero in a record; what cannot be read counts as zero. -/
def isZeroIn (f : Field) (r : Record) : Bool := ((f.read? r).map Value.isZero).getD true

/-- The error of a field that could not be written: what does not convert is a mistaken
declaration. -/
def slotError (f : Field) : SlotError → Error
  | .coerce misfit => .field f.location (.configuration misfit.message)
  | e => .unprocessable f.location e.message

/-- Writes a field. -/
def store (f : Field) (r : Record) (v : Value) : Except Error Record :=
  (r.writePath f.location v).mapError f.slotError

end Field

end FieldRules
