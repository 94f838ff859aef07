import FieldRules.Json.Printer

/-!
# Errors

Three things go wrong: a declaration is mistaken, a field cannot be processed, or a value fails its
constraint.  An error may be attributed to a field, and the errors of one pass are collected into a
batch, so that every failing field is told.

## Main definitions

* `Error.leaves` — the errors inside batches, in order.
* `Error.kind` — how grave an error is; a batch is as grave as its gravest error.
* `ErrorBatch` — collects the errors of a pass.
-/

namespace FieldRules

/-- How grave an error is. -/
inductive ErrorKind where
  | validation
  | unprocessable
  | configuration
  deriving DecidableEq, Repr

namespace ErrorKind

/-- The order of gravity. -/
def rank : ErrorKind → Nat
  | .validation => 0
  | .unprocessable => 1
  | .configuration => 2

/-- The graver of two kinds. -/
def max (a b : ErrorKind) : ErrorKind := if a.rank < b.rank then b else a

/-- The name of a kind. -/
def name : ErrorKind → String
  | .validation => "Validation"
  | .unprocessable => "Unprocessable"
  | .configuration => "Configuration"

end ErrorKind

/-- What went wrong. -/
inductive Error where
  /-- A mistaken declaration. -/
  | configuration (message : String)
  /-- A field that cannot be read or written. -/
  | unprocessable (location message : String)
  /-- A value that fails its constraint in the active scope. -/
  | validation (location scope : String) (constraint : Json)
  /-- An error of a field. -/
  | field (location : String) (source : Error)
  /-- Independent errors of one pass. -/
  | batch (errors : List Error)

namespace Error

instance : Inhabited Error := ⟨.batch []⟩

mutual

/-- How grave an error is; nothing in a batch counts as the least grave. -/
def kind : Error → ErrorKind
  | .configuration _ => .configuration
  | .unprocessable _ _ => .unprocessable
  | .validation _ _ _ => .validation
  | .field _ source => kind source
  | .batch errors => gravest errors

/-- The gravest kind of some errors. -/
def gravest : List Error → ErrorKind
  | [] => .validation
  | e :: rest => (kind e).max (gravest rest)

end

mutual

/-- The errors inside batches, in order; an error that is no batch is its own only leaf. -/
def leaves : Error → List Error
  | .batch errors => allLeaves errors
  | e => [e]

/-- The leaves of some errors, in order. -/
def allLeaves : List Error → List Error
  | [] => []
  | e :: rest => leaves e ++ allLeaves rest

end

/-- The field that an error is attributed to. -/
def location? : Error → Option String
  | .unprocessable location _ => some location
  | .validation location _ _ => some location
  | .field location _ => some location
  | .configuration _ => none
  | .batch _ => none

mutual

/-- How an error is told. -/
def message : Error → String
  | .configuration text => "configuration error: " ++ text
  | .unprocessable location text => "cannot process field \"" ++ location ++ "\": " ++ text
  | .validation location scope constraint =>
    "field \"" ++ location ++ "\" failed validation in scope \"" ++ scope ++ "\": "
      ++ constraint.compact
  | .field location source => "field \"" ++ location ++ "\": " ++ message source
  | .batch errors =>
    toString errors.length ++ " errors: " ++ String.intercalate "; " (messages errors)

def messages : List Error → List String
  | [] => []
  | e :: rest => message e :: messages rest

end

@[simp] theorem leaves_configuration (m : String) :
    (Error.configuration m).leaves = [.configuration m] := rfl

@[simp] theorem leaves_batch (errors : List Error) :
    (Error.batch errors).leaves = allLeaves errors := rfl

@[simp] theorem allLeaves_append (a b : List Error) :
    allLeaves (a ++ b) = allLeaves a ++ allLeaves b := by
  induction a with
  | nil => rfl
  | cons e rest ih => simp [allLeaves, ih]

end Error

/-- The errors of a pass, in the order in which they came up. -/
structure ErrorBatch where
  errors : List Error

namespace ErrorBatch

/-- A pass without errors so far. -/
def empty : ErrorBatch := ⟨[]⟩

/-- Adds an error; of a batch, the errors that it lists. -/
def push (b : ErrorBatch) : Error → ErrorBatch
  | .batch errors => ⟨b.errors ++ errors⟩
  | e => ⟨b.errors ++ [e]⟩

/-- Adds the error of a result that has one, and answers the value of a result that has none. -/
def capture {α : Type} (b : ErrorBatch) : Except Error α → ErrorBatch × Option α
  | .ok a => (b, some a)
  | .error e => (b.push e, none)

/-- How many errors there are. -/
def size (b : ErrorBatch) : Nat := b.errors.length

/-- Whether there are none. -/
def isEmpty (b : ErrorBatch) : Bool := b.errors.isEmpty

/-- The outcome of the pass: an only error stands for itself, several make a batch. -/
def result (b : ErrorBatch) : Except Error Unit :=
  match b.errors with
  | [] => .ok ()
  | [e] => .error e
  | errors => .error (.batch errors)

end ErrorBatch

end FieldRules
