import FieldRules.Error
import FieldRules.Text.Blank

/-!
# Access

Who may read, create and update a field.  Principals are registered in order, at most seven of them,
and the mask of a field holds three bits for each position.  The access tag of a field spells the
mask out: a pair of characters for each principal, and an optional last segment which says that the
caller may always supply the field.

## Main definitions

* `AccessKind` — a set of kinds of access.
* `AccessMask` — the kinds granted to each position.
* `Principals.register`, `Principals.parseTag`, `Principals.allows`.
-/

namespace FieldRules

/-- A set of kinds of access. -/
structure AccessKind where
  read : Bool
  create : Bool
  update : Bool
  deriving DecidableEq, Repr

namespace AccessKind

/-- No access. -/
def none : AccessKind := ⟨false, false, false⟩

/-- Reading a field. -/
def reading : AccessKind := ⟨true, false, false⟩

/-- Setting a field when its record is created. -/
def creating : AccessKind := ⟨false, true, false⟩

/-- Setting a field when its record is updated. -/
def updating : AccessKind := ⟨false, false, true⟩

/-- Setting a field at any time. -/
def writing : AccessKind := ⟨false, true, true⟩

/-- Every kind of access. -/
def all : AccessKind := ⟨true, true, true⟩

/-- The set as three bits, reading in the lowest. -/
def bits (k : AccessKind) : Nat :=
  (if k.read then 1 else 0) + (if k.create then 2 else 0) + (if k.update then 4 else 0)

/-- The set of three bits. -/
def ofBits (n : Nat) : AccessKind := ⟨n.testBit 0, n.testBit 1, n.testBit 2⟩

/-- Whether every kind of the other set is in this one. -/
def contains (k other : AccessKind) : Bool :=
  (!other.read || k.read) && (!other.create || k.create) && (!other.update || k.update)

/-- Whether the set includes reading. -/
def isRead (k : AccessKind) : Bool := k.read

/-- Whether the set includes creating or updating. -/
def isWrite (k : AccessKind) : Bool := k.create || k.update

/-- The union of two sets. -/
def union (a b : AccessKind) : AccessKind :=
  ⟨a.read || b.read, a.create || b.create, a.update || b.update⟩

/-- The set of a name. -/
def ofName? : String → Option AccessKind
  | "read" => some reading
  | "create" => some creating
  | "update" => some updating
  | "write" => some writing
  | "all" => some all
  | _ => Option.none

/-- The set as three letters, with a hyphen for what it lacks. -/
def display (k : AccessKind) : String :=
  String.ofList [if k.read then 'r' else '-', if k.create then 'c' else '-',
    if k.update then 'u' else '-']

@[simp] theorem ofBits_bits (k : AccessKind) : ofBits k.bits = k := by
  rcases k with ⟨_ | _, _ | _, _ | _⟩ <;> decide

end AccessKind

/-- How many principals may be registered. -/
def maxPrincipals : Nat := 7

/-- How many characters the pairs of an access tag may have. -/
def maxTagLength : Nat := 16

/-- The kinds of access granted to each position, three bits a position. -/
structure AccessMask where
  bits : Nat
  deriving DecidableEq, Repr

namespace AccessMask

/-- Nothing is granted to anyone. -/
def empty : AccessMask := ⟨0⟩

/-- The kinds granted to a position; nothing beyond the last one. -/
def kinds (m : AccessMask) (position : Nat) : AccessKind :=
  if maxPrincipals ≤ position then .none else .ofBits (m.bits >>> (3 * position) % 8)

/-- Grants kinds to a position on top of those it has. -/
def grant (m : AccessMask) (position : Nat) (kind : AccessKind) : AccessMask :=
  if maxPrincipals ≤ position then m else ⟨m.bits ||| kind.bits <<< (3 * position)⟩

end AccessMask

/-- Who asks for access. -/
inductive Principal where
  /-- May do everything, whatever the tags say. -/
  | readWriteAll
  /-- May do whatever includes reading, whatever the tags say. -/
  | readAll
  /-- May do nothing. -/
  | noAccess
  /-- May do what the tags grant to the name, if it is registered. -/
  | named (name : String)
  deriving DecidableEq, Repr

namespace Principal

/-- The names of the principals that are always there. -/
def reservedNames : List String := ["ReadWriteAll", "ReadAll", "NoAccess"]

/-- The name of a principal. -/
def name : Principal → String
  | .readWriteAll => "ReadWriteAll"
  | .readAll => "ReadAll"
  | .noAccess => "NoAccess"
  | .named name => name

/-- The principal of a name; no name at all has no access. -/
def ofName : String → Principal
  | "ReadWriteAll" => .readWriteAll
  | "ReadAll" => .readAll
  | "NoAccess" => .noAccess
  | "" => .noAccess
  | name => .named name

end Principal

/-- What an access tag says. -/
structure AccessSpec where
  mask : AccessMask
  isProvided : Bool
  deriving DecidableEq, Repr

/-- The registered principals, in the order of their positions. -/
structure Principals where
  names : List String
  deriving DecidableEq, Repr

namespace Principals

/-- No principals. -/
def empty : Principals := ⟨[]⟩

/-- The names of a registration that are new, in the order of their first occurrence after those
found so far; an empty or reserved name is refused. -/
def newNames (known : List String) : List String → List String → Except Error (List String)
  | added, [] => .ok added
  | added, name :: rest =>
    if name.isEmpty then .error (.configuration "access principal name cannot be empty")
    else if Principal.reservedNames.contains name then
      .error (.configuration ("access principal \"" ++ name ++ "\" is reserved"))
    else if known.contains name || added.contains name then newNames known added rest
    else newNames known (added ++ [name]) rest

/-- Registers principals.  A known name keeps its position, and on failure nothing is registered. -/
def register (p : Principals) (names : List String) : Except Error Principals := do
  let added ← newNames p.names [] names
  if maxPrincipals < p.names.length + added.length then
    .error (.configuration ("cannot register " ++ toString added.length
      ++ " more access principal(s): " ++ toString p.names.length
      ++ " already registered, at most " ++ toString maxPrincipals ++ " allowed"))
  else .ok ⟨p.names ++ added⟩

/-- The position of a name. -/
def position? (p : Principals) (name : String) : Option Nat := p.names.findIdx? (· == name)

/-- What the first character of a pair grants. -/
def readChar? : Char → Option AccessKind
  | 'r' => some .reading
  | '-' => some .none
  | _ => none

/-- What the second character of a pair grants. -/
def writeChar? : Char → Option AccessKind
  | 'w' => some .writing
  | 'c' => some .creating
  | 'u' => some .updating
  | '-' => some .none
  | _ => none

/-- Splits at a character; there is one part more than there are such characters. -/
def splitAt (separator : Char) : List Char → List (List Char)
  | [] => [[]]
  | c :: rest =>
    if c = separator then [] :: splitAt separator rest
    else
      match splitAt separator rest with
      | [] => [[c]]
      | part :: parts => (c :: part) :: parts

/-- The configuration error of an access tag. -/
def tagError (tag : String) (text : String) : Error :=
  .configuration ("access tag \"" ++ tag ++ "\"" ++ text)

/-- Reads the pairs of a tag onto a mask.  Pairs beyond the registered principals are read and
grant nothing. -/
def readPairs (p : Principals) (tag : String) : Nat → AccessMask → List Char → Except Error AccessMask
  | position, mask, r :: w :: rest =>
    match readChar? r, writeChar? w with
    | some read, some write =>
      let mask := if position < p.names.length then mask.grant position (read.union write) else mask
      readPairs p tag (position + 1) mask rest
    | none, _ =>
      .error (tagError tag (": invalid read character '" ++ String.singleton r ++ "'"))
    | _, none =>
      .error (tagError tag (": invalid write character '" ++ String.singleton w ++ "'"))
  | _, mask, _ => .ok mask

/-- The segment that marks a field as provided. -/
def isProvidedMark (segment : List Char) : Bool :=
  segment == ['p'] || segment == ['p', 'r', 'o', 'v', 'i', 'd', 'e', 'd']

/-- Reads an access tag. -/
def parseTag (p : Principals) (tag : String) : Except Error AccessSpec :=
  let segments := (splitAt ',' tag.toList).map Text.trim
  let isProvided := (segments.getLast?.map isProvidedMark).getD false
  let segments := if isProvided then segments.dropLast else segments
  match segments.find? fun s => s.length % 2 != 0 with
  | some s =>
    .error (tagError tag (": segment \"" ++ String.ofList s ++ "\" must hold whole pairs"))
  | none =>
    let pairs := segments.flatten
    if maxTagLength < pairs.length then
      .error (tagError tag (" must be at most " ++ toString maxTagLength ++ " characters"))
    else (readPairs p tag 0 .empty pairs).map fun mask => ⟨mask, isProvided⟩

/-- Whether a principal holds every kind of a set under a mask. -/
def allows (p : Principals) (mask : AccessMask) (principal : Principal) (kind : AccessKind) : Bool :=
  match principal with
  | .readWriteAll => true
  | .readAll => kind.isRead
  | .noAccess => false
  | .named name =>
    match p.position? name with
    | some position => (mask.kinds position).contains kind
    | none => false

/-- The kinds granted to each registered principal under a mask. -/
def describe (p : Principals) (mask : AccessMask) : List (String × AccessKind) :=
  p.names.zipIdx.map fun e => (e.1, mask.kinds e.2)

end Principals

end FieldRules
