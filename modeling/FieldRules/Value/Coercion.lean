import FieldRules.Value.Document
import FieldRules.Json.Reader
import FieldRules.Number.Literal
import FieldRules.Text.Blank

/-!
# Coercion

A value is converted so that it can be stored in an attribute of a kind: text is read, integers
change their width when they fit, whole floating numbers become integers, scalars are written as
text, and `null` goes only where something optional is stored.  Reading text as a list or a map
reads it as JSON; a JSON string is in turn read as text, as often as it takes.

## Main definitions

* `Value.infer` — the value that a text most likely stands for.
* `Value.coerceText`, `Value.coerce` — conversion to a kind.
* `Misfit` — why a conversion fails, with the words for it in `Misfit.message`.
-/

namespace FieldRules

open Number (Binary64)
open Number (IntegerFault FloatFault)

/-- Why a value cannot be converted. -/
inductive Misfit where
  /-- A text that is no truth value. -/
  | badBool (text : String)
  /-- A text that is no signed integer. -/
  | badInt (text : String) (fault : IntegerFault)
  /-- A text that is no unsigned integer. -/
  | badUint (text : String) (fault : IntegerFault)
  /-- A text that is no floating number. -/
  | badFloat (text : String) (fault : FloatFault)
  /-- A text that is no JSON document. -/
  | badJson (text : String) (kind : Kind)
  /-- A kind that no text stands for. -/
  | noLiteral (text : String) (kind : Kind)
  /-- An absent value where one is required. -/
  | absent (kind : Kind)
  /-- A number outside the range of its target. -/
  | tooWide (number target : String)
  /-- Forms that do not convert into each other. -/
  | unrelated (typeName : String) (kind : Kind)
  /-- A value that is not of the kind it was converted to. -/
  | unexpected (kind : Kind) (typeName : String)
  deriving DecidableEq

/-- What stands in a message for the fault of a document's text. -/
def jsonFaultText : String := "<json error>"

/-- How a failed conversion is told. -/
def Misfit.message : Misfit → String
  | .badBool text => "\"" ++ text ++ "\" is not a bool: " ++ Number.boolFaultMessage
  | .badInt text fault => "\"" ++ text ++ "\" is not an int: " ++ fault.message
  | .badUint text fault => "\"" ++ text ++ "\" is not a uint: " ++ fault.message
  | .badFloat text fault => "\"" ++ text ++ "\" is not a float: " ++ fault.message
  | .badJson text kind => "\"" ++ text ++ "\" is not a JSON " ++ kind.name ++ ": " ++ jsonFaultText
  | .noLiteral text kind => "cannot parse \"" ++ text ++ "\" into a " ++ kind.name ++ " field"
  | .absent kind => "cannot store null in a non-optional " ++ kind.name ++ " field"
  | .tooWide number target => number ++ " does not fit in " ++ target
  | .unrelated typeName kind => "cannot convert " ++ typeName ++ " into a " ++ kind.name ++ " field"
  | .unexpected kind typeName => "expected " ++ kind.name ++ ", got " ++ typeName

namespace Value

/-- The value that a text most likely stands for: a truth value, else a signed or an unsigned
integer, else a floating number, else the text itself. -/
def infer (s : String) : Value :=
  let chars := s.toList
  match Number.readBool? chars with
  | some b => .bool b
  | none =>
    match Number.readInt64 chars with
    | .ok i => .int i
    | .error _ =>
      match Number.readUInt64 chars with
      | .ok u => .uint u
      | .error _ =>
        match Number.readFloat chars with
        | .ok x => .float x
        | .error _ => .text s

/-- The bytes of a text. -/
def utf8 (s : String) : List UInt8 := s.toUTF8.data.toList

/-- Reads a text as a scalar of a kind; `none` for the kinds whose texts are documents. -/
def coerceScalarText? (s : String) (kind : Kind) : Option (Except Misfit Value) :=
  let chars := Text.trim s.toList
  match kind with
  | .text => some (.ok (.text s))
  | .bytes => some (.ok (.bytes (utf8 s)))
  | .bool => some <|
    match Number.readBool? chars with
    | some b => .ok (.bool b)
    | none => .error (.badBool s)
  | .int => some <|
    match Number.readInt64 chars with
    | .ok i => .ok (.int i)
    | .error e => .error (.badInt s e)
  | .uint => some <|
    match Number.readUInt64 chars with
    | .ok u => .ok (.uint u)
    | .error e => .error (.badUint s e)
  | .float => some <|
    match Number.readFloat chars with
    | .ok x => .ok (.float x)
    | .error e => .error (.badFloat s e)
  | .any => some (.ok (infer s))
  | .record => some (.error (.noLiteral s kind))
  | .custom => some (.error (.noLiteral s kind))
  | .list => none
  | .map => none

/-- Accepts a value that was read from a document as a list or a map. -/
def acceptDocument (kind : Kind) : Value → Except Misfit Value
  | .null => .error (.absent kind)
  | .list items =>
    if kind = .list then .ok (.list items) else .error (.unrelated "list" kind)
  | .map entries =>
    if kind = .map then .ok (.map entries) else .error (.unrelated "map" kind)
  | v => .error (.unrelated v.typeName kind)

/-- Reads a text as a JSON list or map.  A document that is a string is read as text again; the
first argument bounds how often, and the text itself is long enough a bound, since a string is
shorter than the literal that denotes it. -/
def coerceDocumentText : Nat → String → Kind → Except Misfit Value
  | 0, s, kind => .error (.badJson s kind)
  | fuel + 1, s, kind =>
    match Json.ofText? (Text.trimmed s) with
    | none => .error (.badJson s kind)
    | some (.string inner) => coerceDocumentText fuel inner kind
    | some json => acceptDocument kind (ofJson json)

/-- Reads a text as a value of a kind.  Numbers and truth values may have blanks around them. -/
def coerceText (s : String) (kind : Kind) : Except Misfit Value :=
  match coerceScalarText? s kind with
  | some result => result
  | none => coerceDocumentText (s.length + 1) s kind

/-- Converts a signed integer to a kind. -/
def coerceInt (i : Int64) : Kind → Except Misfit Value
  | .int => .ok (.int i)
  | .uint =>
    if 0 ≤ i.toInt then .ok (.uint (UInt64.ofNat i.toInt.toNat))
    else .error (.tooWide (toString i.toInt) "a uint")
  | .float => .ok (.float (Binary64.ofInt i.toInt))
  | .text => .ok (.text (display (.int i)))
  | kind => .error (.unrelated "int" kind)

/-- Converts an unsigned integer to a kind. -/
def coerceUint (u : UInt64) : Kind → Except Misfit Value
  | .uint => .ok (.uint u)
  | .int =>
    if u.toNat < 9223372036854775808 then .ok (.int (Int64.ofNat u.toNat))
    else .error (.tooWide (toString u.toNat) "an int")
  | .float => .ok (.float (Binary64.ofNat u.toNat))
  | .text => .ok (.text (display (.uint u)))
  | kind => .error (.unrelated "uint" kind)

/-- Converts a floating number to a kind.  A range is tested against its ends as floating numbers,
and the one number that the test lets through above a range becomes the range's greatest. -/
def coerceFloat (x : Binary64) : Kind → Except Misfit Value
  | .float => .ok (.float x)
  | .int =>
    if x.isWhole then
      let n := x.truncate
      if -9223372036854775808 ≤ n ∧ n ≤ 9223372036854775808 then
        .ok (.int (Int64.ofInt (min n 9223372036854775807)))
      else .error (.tooWide x.plainText "an int")
    else .error (.unrelated "float" .int)
  | .uint =>
    if x.isWhole ∧ 0 ≤ x.truncate then
      let n := x.truncate.toNat
      if n ≤ 18446744073709551616 then .ok (.uint (UInt64.ofNat (min n 18446744073709551615)))
      else .error (.tooWide x.plainText "a uint")
    else .error (.unrelated "float" .uint)
  | .text => .ok (.text (display (.float x)))
  | kind => .error (.unrelated "float" kind)

/-- Converts a value so that it can be stored in an attribute of a kind. -/
def coerce (v : Value) (kind : Kind) (isOptional : Bool) : Except Misfit Value :=
  if v.isNull then
    if isOptional || kind == .any then .ok .null else .error (.absent kind)
  else if kind = .any then .ok v
  else match v with
    | .text s => coerceText s kind
    | .int i => coerceInt i kind
    | .uint u => coerceUint u kind
    | .float x => coerceFloat x kind
    | .bool b =>
      if kind = .bool then .ok v
      else if kind = .text then .ok (.text (display (.bool b)))
      else .error (.unrelated "bool" kind)
    | .bytes _ => if kind = .bytes then .ok v else .error (.unrelated "bytes" kind)
    | .list _ => if kind = .list then .ok v else .error (.unrelated "list" kind)
    | .map _ =>
      if kind = .map ∨ kind = .record then .ok v else .error (.unrelated "map" kind)
    | .custom c => if kind = .custom then .ok v else .error (.unrelated c.typeName kind)
    | .null => .error (.absent kind)

end Value

end FieldRules
