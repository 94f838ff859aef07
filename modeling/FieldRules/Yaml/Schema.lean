import FieldRules.Json.Reader
import FieldRules.Yaml.Node

/-!
# What YAML scalars stand for

A plain scalar stands for null, a truth value, an integer, a floating number, or else the text that
it is.  An integer is decimal without needless zeros, or hexadecimal, octal or binary, with an
optional sign.  What does not fit 64 bits is refused while it fits 128, and is no integer beyond
that.  A scalar in quotes is always a text.

## Main definitions

* `plainJson?` — what a plain scalar stands for.
* `Node.json?` — a document as JSON.
-/

namespace FieldRules.Yaml

open FieldRules.Number

/-- Whether a plain scalar stands for null. -/
def isNullText (s : String) : Bool := ["", "null", "Null", "NULL", "~"].contains s

/-- The truth value of a plain scalar. -/
def boolOfText? (s : String) : Option Bool :=
  if ["true", "True", "TRUE"].contains s then some true
  else if ["false", "False", "FALSE"].contains s then some false
  else none

/-- The number that some digits of a base denote. -/
def digits? (base : Nat) (digits : List Char) : Option Nat :=
  if digits.isEmpty then none
  else digits.foldlM (fun n c => do
    let d ← Json.Reader.hexValue? c
    if d < base then some (n * base + d) else none) 0

/-- Whether there is a zero in front of further digits, and nothing but digits. -/
def hasNeedlessZero (s : List Char) : Bool :=
  1 < s.length && s.head? == some '0' && s.all Char.isDigit

/-- The number that a literal without a sign denotes. -/
def natural? (s : List Char) : Option Nat :=
  match s with
  | '0' :: 'x' :: rest => digits? 16 rest
  | '0' :: 'o' :: rest => digits? 8 rest
  | '0' :: 'b' :: rest => digits? 2 rest
  | s => if hasNeedlessZero s then none else digits? 10 s

/-- The integer that a plain scalar denotes, if it fits 128 bits. -/
def integer? (s : List Char) : Option Int :=
  let (negative, rest) := takeSign s
  match natural? rest with
  | none => none
  | some n =>
    if negative then if n ≤ pow2 127 then some (-(n : Int)) else none
    else if n < pow2 128 then some n
    else none

/-- The floating number that a plain scalar denotes, if there is one; a number that is not finite
is written with a point in front. -/
def float? (s : List Char) : Option Binary64 :=
  let unsigned := match s with
    | '+' :: rest => rest
    | s => s
  if [".inf", ".Inf", ".INF"].contains (String.ofList unsigned) then some (Binary64.infinity false)
  else if ["-.inf", "-.Inf", "-.INF"].contains (String.ofList s) then
    some (Binary64.infinity true)
  else if [".nan", ".NaN", ".NAN"].contains (String.ofList s) then some Binary64.nan
  else if unsigned.length < s.length && (takeSign unsigned).2 != unsigned then none
  else match readFloat unsigned with
    | .ok x => if x.isFinite then some x else none
    | .error _ => none

/-- What a plain scalar stands for. -/
def plainJson? (s : String) : Option Json :=
  if isNullText s then some .null
  else match boolOfText? s with
    | some b => some (.bool b)
    | none =>
      let chars := s.toList
      match integer? chars with
      | some n =>
        if h : -9223372036854775808 ≤ n ∧ n < 18446744073709551616 then
          some (.number (.integer n h))
        else none
      | none =>
        if hasNeedlessZero (takeSign chars).2 then some (.string s)
        else match float? chars with
          | some x => some (.ofFloat x)
          | none => some (.string s)

namespace Node

mutual

/-- A document as JSON, where the entries of mappings stay as they are. -/
def json? : Node → Option Json
  | .scalar true text => plainJson? text
  | .scalar false text => some (.string text)
  | .sequence items => (jsonItems? items).map .array
  | .mapping entries => (jsonEntries? entries).map .object

def jsonItems? : List Node → Option (List Json)
  | [] => some []
  | x :: rest => do some ((← json? x) :: (← jsonItems? rest))

def jsonEntries? : List (String × Node) → Option (List (String × Json))
  | [] => some []
  | (k, x) :: rest => do some ((k, ← json? x) :: (← jsonEntries? rest))

end

end Node

end FieldRules.Yaml
