import FieldRules.Json.Basic

/-!
# Reading documents into structures

Structures are read from documents of different formats.  A format says how a document of it is
taken apart; what is common to all formats, such as lists of things and parts that may be missing,
is built from that.

A structure has named parts.  Its document holds each of them once at most, and no others.

## Main definitions

* `Format` — how documents of a type are taken apart.
* `Format.list?`, `Format.dict?`, `Format.option?` — read lists, dictionaries and options.
* `required?`, `optional?` — read a part of a structure.
-/

namespace FieldRules

/-- How documents of a type are taken apart. -/
structure Format (α : Type) where
  /-- The parts of a structure whose parts have some names. -/
  parts? : List String → α → Option (List (String × α))
  /-- The items of a list. -/
  items? : α → Option (List α)
  /-- The entries of a dictionary, in order. -/
  entries? : α → Option (List (String × α))
  text? : α → Option String
  bool? : α → Option Bool
  /-- Whether a document stands for nothing. -/
  isNull : α → Bool
  /-- Any document as a JSON document. -/
  json? : α → Option Json

namespace Format

variable {α β : Type}

/-- Whether no key is twice in a list of entries. -/
def hasDistinctKeys : List (String × α) → Bool
  | [] => true
  | (k, _) :: rest => !(rest.any fun e => e.1 == k) && hasDistinctKeys rest

/-- Entries whose keys are names of parts, each at most once. -/
def partsOfEntries? (names : List String) (entries : List (String × α)) :
    Option (List (String × α)) :=
  if hasDistinctKeys entries && entries.all fun e => names.contains e.1 then some entries else none

/-- A list of things. -/
def list? (f : Format α) (read : α → Option β) (x : α) : Option (List β) := do
  (← f.items? x).mapM read

/-- A dictionary of things; the last entry of a key wins. -/
def dict? (f : Format α) (read : α → Option β) (x : α) : Option (Dict β) := do
  let entries ← (← f.entries? x).mapM fun e => (read e.2).map fun b => (e.1, b)
  some (Dict.ofList entries)

/-- A thing that may be null. -/
def option? (f : Format α) (read : α → Option β) (x : α) : Option (Option β) :=
  if f.isNull x then some none else (read x).map some

end Format

variable {α β : Type}

/-- A part that must be there. -/
def required? (parts : List (String × α)) (name : String) (read : α → Option β) : Option β :=
  (parts.lookup name).bind read

/-- A part with a value for when it is not there. -/
def optional? (parts : List (String × α)) (name : String) (read : α → Option β) (otherwise : β) :
    Option β :=
  match parts.lookup name with
  | some x => read x
  | none => some otherwise

end FieldRules
