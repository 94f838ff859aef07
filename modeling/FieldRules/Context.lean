import FieldRules.Access
import FieldRules.Constraint.Expression

/-!
# Contexts

What is carried through a pass over the fields of a record: the active scope, the principal that
asks and the kind of access, values and counters for field functions, named contexts inside, and the
projection that a reading pass leaves behind.
-/

namespace FieldRules

/-- The state of a pass. -/
inductive Context where
  | mk (scope? : Option String) (principal? : Option Principal) (access : AccessKind)
    (values : List (String × Value)) (counters : List (String × Int64))
    (children : List (String × Context)) (projection : List (String × Value))

namespace Context

/-- A context in which nothing is set. -/
def empty : Context := .mk none none .none [] [] [] []

instance : Inhabited Context := ⟨empty⟩

/-- The scope, if one was set. -/
def scope? : Context → Option String
  | .mk s _ _ _ _ _ _ => s

/-- The principal, if one was set. -/
def principal? : Context → Option Principal
  | .mk _ p _ _ _ _ _ => p

/-- The kind of access asked for. -/
def access : Context → AccessKind
  | .mk _ _ a _ _ _ _ => a

/-- The values for field functions. -/
def values : Context → Dict Value
  | .mk _ _ _ v _ _ _ => v

/-- The counters. -/
def counters : Context → Dict Int64
  | .mk _ _ _ _ c _ _ => c

/-- The contexts inside. -/
def children : Context → Dict Context
  | .mk _ _ _ _ _ c _ => c

/-- The fields projected so far. -/
def projection : Context → Dict Value
  | .mk _ _ _ _ _ _ p => p

/-- The active scope, which is every scope when none was set. -/
def scope (c : Context) : String := c.scope?.getD wildcard

/-- The principal, who has no access when none was set. -/
def principal (c : Context) : Principal := c.principal?.getD .noAccess

/-- Sets the scope. -/
def setScope (c : Context) (scope : String) : Context :=
  match c with
  | .mk _ p a v n k r => .mk (some scope) p a v n k r

/-- Sets the principal. -/
def setPrincipal (c : Context) (principal : Principal) : Context :=
  match c with
  | .mk s _ a v n k r => .mk s (some principal) a v n k r

/-- Sets the kind of access. -/
def setAccess (c : Context) (access : AccessKind) : Context :=
  match c with
  | .mk s p _ v n k r => .mk s p access v n k r

/-- Stores a value. -/
def set (c : Context) (key : String) (v : Value) : Context :=
  match c with
  | .mk s p a vs n k r => .mk s p a (Dict.insert vs key v) n k r

/-- A stored value. -/
def get? (c : Context) (key : String) : Option Value := c.values.find? key

/-- What a counter stands at; it starts at zero. -/
def counter (c : Context) (name : String) : Int64 := (c.counters.find? name).getD 0

/-- Adds to a counter, and answers what it stands at then. -/
def increment (c : Context) (name : String) (amount : Int64) : Int64 × Context :=
  let next := c.counter name + amount
  match c with
  | .mk s p a v n k r => (next, .mk s p a v (Dict.insert n name next) k r)

/-- A context inside, if it is there. -/
def sub? (c : Context) (name : String) : Option Context := c.children.find? name

/-- Puts a context inside under a name. -/
def setSub (c : Context) (name : String) (inner : Context) : Context :=
  match c with
  | .mk s p a v n k r => .mk s p a v n (Dict.insert k name inner) r

/-- Projects a field. -/
def project (c : Context) (name : String) (v : Value) : Context :=
  match c with
  | .mk s p a vs n k r => .mk s p a vs n k (Dict.insert r name v)

/-- Takes the projection, and leaves it empty. -/
def takeProjection (c : Context) : Dict Value × Context :=
  match c with
  | .mk s p a v n k r => (r, .mk s p a v n k [])

/-- Runs a step on the context at a path of names, creating the contexts on the way. -/
def stepAt {α : Type} (step : Context → α × Context) : List String → Context → α × Context
  | [], c => step c
  | name :: path, c =>
    let (a, inner) := stepAt step path ((c.sub? name).getD empty)
    (a, c.setSub name inner)

end Context

end FieldRules
