import FieldRules.Error
import FieldRules.Json.Format
import FieldRules.Value.Coercion
import FieldRules.Yaml.Format

/-!
# Configurations

A configuration document lists the registrations of a catalog: principals, scope aliases, constants,
constraint expressions, and whether every record type must have an id.  Each part may be missing.
-/

namespace FieldRules

/-- The registrations of a catalog. -/
structure Config where
  principals : List String
  scopeAliases : Dict String
  constants : Dict Json
  constraints : Dict String
  requireId : Bool

namespace Config

/-- The names of the parts, in order. -/
def partNames : List String :=
  ["principals", "scope_aliases", "constants", "constraints", "require_id"]

/-- The formats in which a configuration is written. -/
inductive Dialect where
  | json
  | yaml
  deriving DecidableEq, Repr

/-- The configuration of a document. -/
def ofDocument? {α : Type} (f : Format α) (x : α) : Option Config := do
  let parts ← f.parts? partNames x
  some {
    principals := ← optional? parts "principals" (f.list? f.text?) []
    scopeAliases := ← optional? parts "scope_aliases" (f.dict? f.text?) []
    constants := ← optional? parts "constants" (f.dict? f.json?) []
    constraints := ← optional? parts "constraints" (f.dict? f.text?) []
    requireId := ← optional? parts "require_id" f.bool? false }

/-- The configuration of a text. -/
def ofText? (d : Dialect) (s : String) : Option Config :=
  match d with
  | .json => (Json.Reader.document? s.toList).bind (ofDocument? Json.format)
  | .yaml => (Yaml.Node.ofText? s).bind (ofDocument? Yaml.Node.format)

/-- The configuration of a JSON text, or the error of one that is none. -/
def parse (s : String) : Except Error Config :=
  match ofText? .json s with
  | some c => .ok c
  | none => .error (.configuration ("catalog config: " ++ jsonFaultText))

end Config

end FieldRules
