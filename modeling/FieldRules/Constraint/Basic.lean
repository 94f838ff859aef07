import FieldRules.Pattern.Reader
import FieldRules.Text.Base64
import FieldRules.Value.Document

/-!
# Constraints

A constraint is a predicate on values that can describe itself.  It is a closed expression: presence
and type checks, comparisons with a number, lengths, checks of texts, equality with given values,
and the logical connectives.

A value of the wrong form fails a constraint.  The one exception is an absent value, which satisfies
every comparison with a number, so that an optional attribute fails a range only when it is also
required.

## Main definitions

* `Constraint.test` — whether a value satisfies a constraint.
* `Constraint.details` — the constraint as a document.
* `Constraint.conj`, `Constraint.disj` — the connectives of lists, which do not wrap a single
  operand and are never satisfied without one.
-/

namespace FieldRules

/-- A comparison operator. -/
inductive Comparison where
  | eq
  | ne
  | gt
  | ge
  | lt
  | le
  deriving DecidableEq, Repr

namespace Comparison

/-- Reads the symbol or the short name of an operator. -/
def ofText? : String → Option Comparison
  | "==" => some .eq
  | "eq" => some .eq
  | "!=" => some .ne
  | "ne" => some .ne
  | ">" => some .gt
  | "gt" => some .gt
  | ">=" => some .ge
  | "gte" => some .ge
  | "<" => some .lt
  | "lt" => some .lt
  | "<=" => some .le
  | "lte" => some .le
  | _ => none

/-- The symbol of an operator. -/
def symbol : Comparison → String
  | .eq => "=="
  | .ne => "!="
  | .gt => ">"
  | .ge => ">="
  | .lt => "<"
  | .le => "<="

/-- Whether the operator holds between two sides that compare so. -/
def holds : Comparison → Ordering → Bool
  | .eq, o => o == .eq
  | .ne, o => o != .eq
  | .gt, o => o == .gt
  | .ge, o => o != .lt
  | .lt, o => o == .lt
  | .le, o => o != .gt

theorem ofText?_symbol (op : Comparison) : ofText? op.symbol = some op := by
  cases op <;> rfl

end Comparison

/-- A predicate on values. -/
inductive Constraint where
  /-- Satisfied by nothing. -/
  | invalid
  /-- Satisfied by all that is not absent. -/
  | required
  /-- Satisfied by all that is not absent, under another name. -/
  | notNil
  /-- Satisfied by what is absent. -/
  | nil
  /-- Satisfied by the zero of any form. -/
  | empty
  /-- Satisfied by the base64 encodings. -/
  | base64
  /-- Compares a number with a bound. -/
  | compare (op : Comparison) (bound : Numeric)
  /-- Bounds a length from both sides. -/
  | length (min max : UInt64)
  /-- Bounds a length from below. -/
  | minLength (min : UInt64)
  /-- Bounds a length from above. -/
  | maxLength (max : UInt64)
  /-- Satisfied by texts with a given beginning. -/
  | startsWith (start : String)
  /-- Satisfied by texts with a given end. -/
  | endsWith (tail : String)
  /-- Satisfied by texts in which a pattern is found; the source is how it was written. -/
  | matching (source : String) (pattern : Pattern)
  /-- Satisfied by what is the same as one of the options. -/
  | oneOf (options : List Value)
  /-- Satisfied by values of the named types. -/
  | typeOf (names : List String)
  /-- Satisfied by what is the same as a value. -/
  | equals (v : Value)
  /-- Satisfied when every operand is. -/
  | all (operands : List Constraint)
  /-- Satisfied when some operand is. -/
  | any (operands : List Constraint)
  /-- Satisfied when the operand is not. -/
  | not (operand : Constraint)

namespace Constraint

instance : Inhabited Constraint := ⟨.invalid⟩

/-- Whether a number satisfies a comparison; what is absent does, and what is no number does not. -/
def testNumber (op : Comparison) (bound : Numeric) (v : Value) : Bool :=
  v.isNull || match v.numeric? with
    | some n => ((n.compare? bound).map op.holds).getD false
    | none => false

/-- Whether a value has a length that satisfies a condition. -/
def testLength (p : Nat → Bool) (v : Value) : Bool := (v.size?.map p).getD false

/-- Whether a value is a text that satisfies a condition. -/
def testText (p : String → Bool) (v : Value) : Bool := (v.text?.map p).getD false

mutual

/-- Whether a value satisfies a constraint. -/
def test : Constraint → Value → Bool
  | .invalid, _ => false
  | .required, v => !v.isNull
  | .notNil, v => !v.isNull
  | .nil, v => v.isNull
  | .empty, v => v.isZero
  | .base64, v => testText (fun s => Text.Base64.isEncoded s.toList) v
  | .compare op bound, v => testNumber op bound v
  | .length min max, v => testLength (fun n => min.toNat ≤ n && n ≤ max.toNat) v
  | .minLength min, v => testLength (fun n => min.toNat ≤ n) v
  | .maxLength max, v => testLength (fun n => n ≤ max.toNat) v
  | .startsWith start, v => testText (fun s => start.toList.isPrefixOf s.toList) v
  | .endsWith tail, v => testText (fun s => tail.toList.isSuffixOf s.toList) v
  | .matching _ pattern, v => testText pattern.isFoundIn v
  | .oneOf options, v => options.any fun o => o.same v
  | .typeOf names, v => names.contains v.typeName
  | .equals w, v => v.same w
  | .all operands, v => testAll operands v
  | .any operands, v => testAny operands v
  | .not operand, v => !test operand v

def testAll : List Constraint → Value → Bool
  | [], _ => true
  | c :: rest, v => test c v && testAll rest v

def testAny : List Constraint → Value → Bool
  | [], _ => false
  | c :: rest, v => test c v || testAny rest v

end

/-- The name under which a bound of a width is compared. -/
def boundName : Numeric → String
  | .int _ => "int"
  | .uint _ => "uint"
  | .float _ => "float"

/-- A bound as a document. -/
def boundJson : Numeric → Json
  | .int i => .ofInt64 i
  | .uint u => .ofUInt64 u
  | .float x => .ofFloat x

/-- A description with nothing but a name. -/
def named (name : String) (parts : List (String × Json)) : Json :=
  .ofParts (("name", .string name) :: parts)

mutual

/-- The constraint as a document. -/
def details : Constraint → Json
  | .invalid => named "invalid" []
  | .required => named "required" []
  | .notNil => named "notnil" []
  | .nil => named "nil" []
  | .empty => named "empty" []
  | .base64 => named "base64" []
  | .compare op bound =>
    named (boundName bound) [("op", .string op.symbol), ("value", boundJson bound)]
  | .length min max => named "len" [("min", .ofUInt64 min), ("max", .ofUInt64 max)]
  | .minLength min => named "minlen" [("min", .ofUInt64 min)]
  | .maxLength max => named "maxlen" [("max", .ofUInt64 max)]
  | .startsWith start => named "startswith" [("prefix", .string start)]
  | .endsWith tail => named "endswith" [("suffix", .string tail)]
  | .matching source _ => named "regexp" [("pattern", .string source)]
  | .oneOf options => named "oneof" [("values", .array (options.map Value.toJson))]
  | .typeOf names => named "typeof" [("types", .array (names.map Json.string))]
  | .equals v => named "equals" [("value", v.toJson)]
  | .all operands => named "and" [("of", .array (allDetails operands))]
  | .any operands => named "or" [("of", .array (allDetails operands))]
  | .not operand => named "not" [("of", details operand)]

def allDetails : List Constraint → List Json
  | [] => []
  | c :: rest => details c :: allDetails rest

end

/-- The conjunction of a list: a single operand stands for itself, and nothing satisfies an empty
list, which is a mistake. -/
def conj : List Constraint → Constraint
  | [] => .invalid
  | [c] => c
  | operands => .all operands

/-- The disjunction of a list, with the same rule for short lists. -/
def disj : List Constraint → Constraint
  | [] => .invalid
  | [c] => c
  | operands => .any operands

/-- Between two bounds, both included. -/
def between (low high : Numeric) : Constraint := conj [.compare .ge low, .compare .le high]

/-- Bounds a length from both sides; bounds that cross are satisfied by nothing. -/
def ofLengths (min max : UInt64) : Constraint :=
  if max.toNat < min.toNat then .invalid else .length min max

/-- What stands in a message for the fault of a pattern's text. -/
def patternFaultText : Pattern.Fault → String
  | .malformed => "<regex error>"
  | .tooLarge =>
    "Compiled regex exceeds size limit of " ++ toString Pattern.Memory.limit ++ " bytes."

/-- The constraint of a pattern's text, or what is told of a text that denotes no pattern. -/
def ofPattern (source : String) : Except String Constraint :=
  match Pattern.read source with
  | .ok p => .ok (.matching source p)
  | .error fault => .error ("invalid regexp '" ++ source ++ "': " ++ patternFaultText fault)

theorem testAll_eq_all (cs : List Constraint) (v : Value) :
    testAll cs v = cs.all fun c => c.test v := by
  induction cs with
  | nil => rfl
  | cons c rest ih => simp [testAll, ih]

theorem testAny_eq_any (cs : List Constraint) (v : Value) :
    testAny cs v = cs.any fun c => c.test v := by
  induction cs with
  | nil => rfl
  | cons c rest ih => simp [testAny, ih]

end Constraint

end FieldRules
