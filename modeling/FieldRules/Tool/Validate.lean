import FieldRules.Registry

/-!
# Checking fields

The validate tool checks a field against the constraint of its tag for the active scope.  Fields of
named nested records are not checked.
-/

namespace FieldRules.Tool

/-- The tag key and the name of the validate tool. -/
def validateName : String := "validate"

/-- Fails when the field does not satisfy a constraint. -/
def checkApplier (c : Constraint) : Applier := fun field r ctx =>
  match field.read? r with
  | none => ⟨r, ctx, .error (.unprocessable field.location "field not found")⟩
  | some v =>
    if c.test v then ⟨r, ctx, .ok ()⟩
    else ⟨r, ctx, .error (.validation field.location ctx.scope c.details)⟩

/-- The constraint of each scope; of two groups of one scope the last one counts. -/
def constraintsByScope (aliases : Aliases) (groups : List (String × Constraint)) : Dict Constraint :=
  Dict.ofList (groups.map fun g => (aliases.resolve g.1, g.2))

/-- The plan of a validation tag's groups. -/
def validatePlan (aliases : Aliases) (groups : List (String × Constraint)) : Plan Constraint :=
  Plan.ofScopes aliases (constraintsByScope aliases groups)

/-- The validate tool. -/
def validate : Tool where
  name := validateName
  applier registry field tag :=
    match tag with
    | none => .ok none
    | some tag =>
      if field.isNested then .ok none
      else (registry.vocabulary.parseTag tag).map fun groups =>
        (validatePlan registry.aliases groups).applier? checkApplier

/-- The constraint that a tag's groups have for a scope: the last group of what the scope stands for,
else the last group for every scope. -/
def selectGroup? (aliases : Aliases) (groups : List (String × Constraint)) (scope : String) :
    Option Constraint :=
  let last (wanted : String) : Option Constraint :=
    (groups.reverse.find? fun g => aliases.resolve g.1 == wanted).map Prod.snd
  match last (aliases.resolve scope) with
  | some c => some c
  | none => last wildcard

/-- Whether a value passes a tag's groups in a scope; where no group holds, every value passes. -/
def passes (aliases : Aliases) (groups : List (String × Constraint)) (scope : String) (v : Value) :
    Bool :=
  match selectGroup? aliases groups scope with
  | some c => c.test v
  | none => true

end FieldRules.Tool
