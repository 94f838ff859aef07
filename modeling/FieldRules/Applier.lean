import FieldRules.Context
import FieldRules.Directive.Plan
import FieldRules.Field

/-!
# Appliers

An applier is what a tool does to one field of a record in a pass.  It may change the record and the
context, and it may fail; what it changed before it failed stays changed.

## Main definitions

* `Applier`, `Outcome`.
* `Applier.value`, `Applier.function`, `Applier.copy` — write a fixed value, the answer of a
  function, or a value found in the same record.
* `Applier.ifZero` — only where the field is zero.
* `Plan.run` — what a plan does in the active scope.
-/

namespace FieldRules

/-- What an applier leaves behind. -/
structure Outcome where
  record : Record
  context : Context
  result : Except Error Unit

/-- What a tool does to one field. -/
def Applier : Type := Field → Record → Context → Outcome

/-- Computes a value for a field.  It sees the record, and it may change the context. -/
def FieldFunction : Type := Record → Field → Context → Except Error Value × Context

namespace Applier

/-- Leaves everything as it is. -/
def skip : Applier := fun _ r ctx => ⟨r, ctx, .ok ()⟩

/-- Fails and leaves everything as it is. -/
def fail (e : Error) : Applier := fun _ r ctx => ⟨r, ctx, .error e⟩

/-- Writes a value that depends on the record. -/
def write (f : Field → Record → Except Error Value) : Applier := fun field r ctx =>
  match f field r with
  | .error e => ⟨r, ctx, .error e⟩
  | .ok v =>
    match field.store r v with
    | .error e => ⟨r, ctx, .error e⟩
    | .ok r => ⟨r, ctx, .ok ()⟩

/-- Writes a fixed value. -/
def value (v : Value) : Applier := write fun _ _ => .ok v

/-- Converts a value for a field; `source` says in the error where it came from. -/
def convert (field : Field) (v : Value) (source : String) : Except Error Value :=
  match v.coerce field.kind field.isOptional with
  | .ok v => .ok v
  | .error misfit =>
    .error (.field field.location (.configuration (source ++ ": " ++ misfit.message)))

/-- Writes the answer of a field function. -/
def function (name : String) (f : FieldFunction) : Applier := fun field r ctx =>
  let (answer, ctx) := f r field ctx
  match answer with
  | .error e => ⟨r, ctx, .error e⟩
  | .ok v => write (fun field _ => convert field v ("function " ++ name)) field r ctx

/-- Where in the same record a value is found. -/
inductive Source where
  /-- The whole record, as a map. -/
  | whole
  /-- Another field. -/
  | field (path : String)
  /-- A method. -/
  | method (name : String)
  deriving DecidableEq, Repr

/-- The value of a source. -/
def Source.find (s : Source) (field : Field) (r : Record) : Except Error Value :=
  match s with
  | .whole => .ok r.snapshot
  | .field path =>
    match r.readPath? path with
    | some v => .ok v
    | none =>
      .error (.unprocessable field.location ("source field \"" ++ path ++ "\" not found"))
  | .method name =>
    match r.call? name with
    | some v => .ok v
    | none =>
      .error (.unprocessable field.location ("source method \"" ++ name ++ "()\" not found"))

/-- How a source is written. -/
def Source.display : Source → String
  | .whole => "$"
  | .field path => "$." ++ path
  | .method name => "$." ++ name ++ "()"

/-- Writes a value found in the same record. -/
def copy (s : Source) : Applier :=
  write fun field r => do convert field (← s.find field r) s.display

/-- Applies only where the field is zero. -/
def ifZero (inner : Applier) : Applier := fun field r ctx =>
  if field.isZeroIn r then inner field r ctx else skip field r ctx

/-- Applies one after the other, the second one on a condition on what the first one left; the
errors of both are collected. -/
def followed (first : Applier) (goesOn : Field → Record → Bool) (second : Applier) : Applier :=
  fun field r ctx =>
    let a := first field r ctx
    let (batch, _) := ErrorBatch.empty.capture a.result
    if goesOn field a.record then
      let b := second field a.record a.context
      let (batch, _) := batch.capture b.result
      ⟨b.record, b.context, batch.result⟩
    else ⟨a.record, a.context, batch.result⟩

end Applier

/-- Whether the right side of a composition counts, once the left side has been applied. -/
def Composition.goesOn : Composition → Field → Record → Bool
  | .both => fun _ _ => true
  | .fallback => fun field r => field.isZeroIn r

/-- What a plan does in the active scope, given what each meaning does. -/
def Plan.run {α : Type} (f : α → Applier) : Plan α → Applier
  | .nothing => .skip
  | .scoped byScope fallback => fun field r ctx =>
    match Plan.choose byScope fallback ctx.scope with
    | some a => f a field r ctx
    | none => Applier.skip field r ctx
  | .compose op left right => (run f left).followed op.goesOn (run f right)

/-- The applier of a plan, if there is anything to do. -/
def Plan.applier? {α : Type} (f : α → Applier) (p : Plan α) : Option Applier :=
  if p.isNothing then none else some (p.run f)

end FieldRules
