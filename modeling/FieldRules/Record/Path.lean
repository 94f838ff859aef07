import FieldRules.Record.Basic

/-!
# Locations

A location names an attribute of a record or of a record inside it: the names on the way, joined by
`+` where the inner record is embedded and by `.` where it is named.  Reading a location takes both
signs as the same, and what is found on the way decides.

## Main definitions

* `splitLocation` — the names on the way, and the last one.
* `Record.readPath?`, `Record.writePath` — reading and writing at a location.
-/

namespace FieldRules

/-- The parts of a location between its separators; there is at least one. -/
def locationParts : List Char → List (List Char)
  | [] => [[]]
  | c :: rest =>
    if c = '.' ∨ c = '+' then [] :: locationParts rest
    else
      match locationParts rest with
      | [] => [[c]]
      | part :: parts => (c :: part) :: parts

/-- The names of the records on the way, and the name of the attribute. -/
def splitLocation (location : String) : List String × String :=
  let parts := (locationParts location.toList).map String.ofList
  (parts.dropLast, parts.getLast?.getD "")

namespace Record

/-- The record inside at the end of a way of names. -/
def follow? (r : Record) : List String → Option Record
  | [] => some r
  | name :: way => (r.child? name).bind fun inner => follow? inner way

/-- The record that owns the attribute of a location, and the attribute's name. -/
def resolvePath? (r : Record) (location : String) : Option (Record × String) :=
  let (way, name) := splitLocation location
  (r.follow? way).map fun owner => (owner, name)

/-- Reads the attribute of a location. -/
def readPath? (r : Record) (location : String) : Option Value :=
  (r.resolvePath? location).bind fun p => p.1.get? p.2

/-- Changes the nested record of a name among others. -/
def updateIn (name : String) (f : Record → Except SlotError Record) :
    List (Attribute Cell) → Except SlotError (List (Attribute Cell))
  | [] => .error .missing
  | a :: rest =>
    if a.name = name then
      match a with
      | .plain _ _ => .error .missing
      | .nested d n info attributes =>
        (f ⟨info, attributes⟩).map fun inner => .nested d n inner.info inner.attributes :: rest
    else (updateIn name f rest).map (a :: ·)

/-- Writes an attribute of the record at the end of a way of names. -/
def writeAlong (name : String) (v : Value) : List String → Record → Except SlotError Record
  | [], r => r.set name v
  | step :: way, r =>
    (updateIn step (writeAlong name v way) r.attributes).map fun attributes => ⟨r.info, attributes⟩

/-- Writes the attribute of a location. -/
def writePath (r : Record) (location : String) (v : Value) : Except SlotError Record :=
  let (way, name) := splitLocation location
  writeAlong name v way r

end Record

end FieldRules
