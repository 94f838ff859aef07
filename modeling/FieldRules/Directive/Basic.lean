import FieldRules.Directive.Aliases
import FieldRules.Text.CharClass

/-!
# Directives

A directive configures a field for one scope or several.  It is a list of segments separated by
semicolons, each a configuration with an optional scope and a colon in front.  Two directives may be
composed: the right side of a `?` counts only when the left one leaves the field zero, and the right
side of a `&` always counts.  A backslash makes any of these characters stand for itself.

Reading looks for the first operator of a composition, outside quotes and parentheses.  A `?` that
begins a configuration belongs to it.

## Main definitions

* `Directive` — what a directive says.
* `Directive.read` — what a text says.
-/

namespace FieldRules

/-- How the right side of a composition is run. -/
inductive Composition where
  /-- Only if the left side leaves the field zero. -/
  | fallback
  /-- Always. -/
  | both
  deriving DecidableEq, Repr

/-- The sign of a composition. -/
def Composition.sign : Composition → Char
  | .fallback => '?'
  | .both => '&'

/-- A configuration for a scope. -/
structure Segment where
  scope : String
  config : String
  deriving DecidableEq, Repr

/-- What a directive says. -/
inductive Directive where
  | segments (segments : List Segment)
  | compose (left : List Segment) (op : Composition) (right : Directive)
  /-- A composition with a blank side; the text is that of the composition. -/
  | oneSided (text : String) (op : Composition)
  deriving DecidableEq, Repr

namespace Directive

/-! ## Segments -/

/-- Splits at a separator where no backslash stands before it. -/
def splitUnescaped (separator : Char) : List Char → List (List Char)
  | [] => [[]]
  | c :: rest =>
    if c = '\\' then
      match rest with
      | [] => [[c]]
      | e :: rest =>
        match splitUnescaped separator rest with
        | [] => [[c, e]]
        | part :: parts => (c :: e :: part) :: parts
    else if c = separator then [] :: splitUnescaped separator rest
    else
      match splitUnescaped separator rest with
      | [] => [[c]]
      | part :: parts => (c :: part) :: parts

/-- What stands before and after the first colon that has no backslash before it. -/
def splitColon? : List Char → Option (List Char × List Char)
  | [] => none
  | c :: rest =>
    if c = '\\' then
      match rest with
      | [] => none
      | e :: rest => (splitColon? rest).map fun r => (c :: e :: r.1, r.2)
    else if c = ':' then some ([], rest)
    else (splitColon? rest).map fun r => (c :: r.1, r.2)

/-- A character of a scope's name. -/
def isScopeChar (c : Char) : Bool :=
  Text.isAlphanumeric c || c == '_' || c == '-' || c == '*'

/-- Separates the scope in front from the configuration.  What stands before the colon must look
like a name of a scope; otherwise the whole segment is the configuration, for every scope. -/
def splitScope (s : List Char) : List Char × List Char :=
  match splitColon? s with
  | some (before, after) =>
    let name := Text.trim before
    if !name.isEmpty && name.all isScopeChar then (name, after) else (wildcard.toList, s)
  | none => (wildcard.toList, s)

/-- The characters that a backslash makes stand for themselves in a configuration. -/
def isEscapable (c : Char) : Bool := c == ';' || c == ':' || c == '?' || c == '&' || c == '\\'

/-- Removes the backslashes that make a character stand for itself, and keeps all others. -/
def unescape : List Char → List Char
  | [] => []
  | c :: rest =>
    if c = '\\' then
      match rest with
      | [] => [c]
      | e :: more => if isEscapable e then e :: unescape more else c :: unescape (e :: more)
    else c :: unescape rest

/-- Reads a segment. -/
def readSegment (s : List Char) : Segment :=
  let (scope, config) := splitScope s
  ⟨String.ofList scope, String.ofList (unescape config)⟩

/-- Reads segments. -/
def readSegments (s : List Char) : List Segment := (splitUnescaped ';' s).map readSegment

/-! ## Compositions -/

/-- What the search for an operator knows of the characters before. -/
structure OperatorScan where
  depth : Nat
  quote : Option Char
  isEscaped : Bool
  atConfigStart : Bool

namespace OperatorScan

/-- Before the first character. -/
def start : OperatorScan := ⟨0, none, false, true⟩

/-- The operator that a character is, given what came before it.  The very first character is none
in any case. -/
def operator? (st : OperatorScan) (c : Char) : Option Composition :=
  if st.isEscaped || st.quote.isSome || st.depth != 0 then none
  else if c = '?' then if st.atConfigStart then none else some .fallback
  else if c = '&' then some .both
  else none

/-- After a character that is no operator. -/
def next (st : OperatorScan) (c : Char) : OperatorScan :=
  if st.isEscaped then { st with isEscaped := false, atConfigStart := false }
  else
    let after : OperatorScan :=
      if c = '\\' then { st with isEscaped := true }
      else match st.quote with
        | some q => if c = q then { st with quote := none } else st
        | none =>
          if c = '\'' ∨ c = '"' then { st with quote := some c }
          else if c = '(' then { st with depth := st.depth + 1 }
          else if c = ')' then { st with depth := st.depth - 1 }
          else st
    if Text.isBlank c then after
    else { after with atConfigStart := (c == ':' || c == ';') && after.quote.isNone }

end OperatorScan

/-- Looks for the first operator; answers what stands before it, the operator, and what stands
after it. -/
def splitOperator? (st : OperatorScan) :
    List Char → Option (List Char × Composition × List Char)
  | [] => none
  | c :: rest =>
    match st.operator? c with
    | some op => some ([], op, rest)
    | none => (splitOperator? (st.next c) rest).map fun r => (c :: r.1, r.2)

/-- Looks for the first operator after the first character. -/
def splitComposition? : List Char → Option (List Char × Composition × List Char)
  | [] => none
  | c :: rest =>
    (splitOperator? (OperatorScan.start.next c) rest).map fun r => (c :: r.1, r.2)

/-- Reads a directive.  The first argument bounds the number of compositions. -/
def readWithin : Nat → List Char → Directive
  | 0, s => .segments (readSegments s)
  | fuel + 1, s =>
    match splitComposition? s with
    | none => .segments (readSegments s)
    | some (left, op, right) =>
      if (Text.trim left).isEmpty || (Text.trim right).isEmpty then
        .oneSided (String.ofList s) op
      else .compose (readSegments left) op (readWithin fuel right)

/-- Reads a directive. -/
def read (text : String) : Directive :=
  let s := text.toList
  readWithin s.length s

end Directive

end FieldRules
