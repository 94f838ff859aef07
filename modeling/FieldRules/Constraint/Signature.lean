import FieldRules.Constraint.Arguments
import FieldRules.Constraint.Basic
import FieldRules.Value.Coercion

/-!
# Signatures

Which constraints have names, and what each name makes of its arguments.  Some names take no
arguments; the others have a list of parameters, each of which says how its argument is read.  The
last parameter of a name that takes any number of arguments is repeated as often as needed.

## Main definitions

* `shortcuts` — the names without arguments.
* `signatures` — the names with arguments.
* `ofArguments` — the constraint of a name and its arguments.
-/

namespace FieldRules.Constraint

/-- How an argument is read. -/
inductive Parameter where
  | int
  | uint
  | float
  | text
  | value
  | comparison
  deriving DecidableEq, Repr

/-- An argument that has been read. -/
inductive Argument where
  | int (i : Int64)
  | uint (u : UInt64)
  | float (x : Number.Binary64)
  | text (s : String)
  | value (v : Value)
  | comparison (op : Comparison)

/-- The parameters of a name. -/
structure Signature where
  name : String
  parameters : List Parameter
  isVariadic : Bool

/-- The names that take no arguments. -/
def shortcuts : List (String × Constraint) :=
  [("required", .required), ("empty", .empty), ("nil", .nil), ("notnil", .notNil),
    ("base64", .base64)]

/-- The names of the connectives. -/
def connectives : List String := ["and", "or", "not"]

/-- The names that take arguments. -/
def signatures : List Signature :=
  [⟨"len", [.uint, .uint], false⟩,
    ⟨"minlen", [.uint], false⟩,
    ⟨"maxlen", [.uint], false⟩,
    ⟨"between", [.int, .int], false⟩,
    ⟨"ubetween", [.uint, .uint], false⟩,
    ⟨"fbetween", [.float, .float], false⟩,
    ⟨"min", [.int], false⟩,
    ⟨"max", [.int], false⟩,
    ⟨"int", [.comparison, .int], false⟩,
    ⟨"uint", [.comparison, .uint], false⟩,
    ⟨"float", [.comparison, .float], false⟩,
    ⟨"startswith", [.text], false⟩,
    ⟨"endswith", [.text], false⟩,
    ⟨"regexp", [.text], false⟩,
    ⟨"oneof", [.value], true⟩,
    ⟨"typeof", [.text], true⟩,
    ⟨"equals", [.value], false⟩]

/-- Every name that an expression may use without a declaration. -/
def builtinNames : List String :=
  shortcuts.map Prod.fst ++ connectives ++ signatures.map Signature.name

/-- Reads an argument; what is told of one that cannot be read names its text. -/
def readArgument (p : Parameter) (raw : RawArgument) : Except String Argument :=
  let text := String.ofList raw.text
  let chars := Text.trim raw.text
  let no (what : String) : Except String Argument := .error ("\"" ++ text ++ "\" is not " ++ what)
  match p with
  | .int =>
    match Number.readInt64 chars with
    | .ok i => .ok (.int i)
    | .error _ => no "an int"
  | .uint =>
    match Number.readUInt64 chars with
    | .ok u => .ok (.uint u)
    | .error _ => no "a uint"
  | .float =>
    match Number.readFloat chars with
    | .ok x => .ok (.float x)
    | .error _ => no "a float"
  | .text => .ok (.text text)
  | .value => .ok (.value (if raw.isQuoted then .text text else Value.infer text))
  | .comparison =>
    match Comparison.ofText? (String.ofList chars) with
    | some op => .ok (.comparison op)
    | none => no "a comparison operator"

/-- Reads arguments against parameters, of which the last is used for all that follow; `position`
counts the arguments from one. -/
def readArguments (name : String) :
    Nat → List Parameter → List RawArgument → Except String (List Argument)
  | _, _, [] => .ok []
  | _, [], _ => .ok []
  | position, p :: more, raw :: rest =>
    match readArgument p raw with
    | .error text =>
      .error ("argument " ++ toString position ++ " of '" ++ name ++ "': " ++ text)
    | .ok a =>
      let next := if more.isEmpty then [p] else more
      (readArguments name (position + 1) next rest).map (a :: ·)

/-- The constraint that a name makes of its arguments. -/
def construct (name : String) (arguments : List Argument) : Except String Constraint :=
  match name, arguments with
  | "len", [.uint min, .uint max] => .ok (.ofLengths min max)
  | "minlen", [.uint min] => .ok (.minLength min)
  | "maxlen", [.uint max] => .ok (.maxLength max)
  | "between", [.int low, .int high] => .ok (.between (.int low) (.int high))
  | "ubetween", [.uint low, .uint high] => .ok (.between (.uint low) (.uint high))
  | "fbetween", [.float low, .float high] => .ok (.between (.float low) (.float high))
  | "min", [.int bound] => .ok (.compare .ge (.int bound))
  | "max", [.int bound] => .ok (.compare .le (.int bound))
  | "int", [.comparison op, .int bound] => .ok (.compare op (.int bound))
  | "uint", [.comparison op, .uint bound] => .ok (.compare op (.uint bound))
  | "float", [.comparison op, .float bound] => .ok (.compare op (.float bound))
  | "startswith", [.text s] => .ok (.startsWith s)
  | "endswith", [.text s] => .ok (.endsWith s)
  | "regexp", [.text s] => Constraint.ofPattern s
  | "equals", [.value v] => .ok (.equals v)
  | "oneof", values =>
    .ok (.oneOf (values.filterMap fun
      | .value v => some v
      | _ => none))
  | "typeof", names =>
    .ok (.typeOf (names.filterMap fun
      | .text s => some (Text.trimmed s)
      | _ => none))
  | _, _ => .error ("cannot build '" ++ name ++ "'")

/-- The constraint of a signature and the arguments as they were written. -/
def Signature.build (s : Signature) (raw : List RawArgument) : Except String Constraint :=
  if !s.isVariadic && raw.length != s.parameters.length then
    .error ("'" ++ s.name ++ "' expects " ++ toString s.parameters.length ++ " argument(s), got "
      ++ toString raw.length)
  else
    match readArguments s.name 1 s.parameters raw with
    | .error text => .error text
    | .ok arguments => construct s.name arguments

end FieldRules.Constraint
