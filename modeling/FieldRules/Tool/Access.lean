import FieldRules.Registry

/-!
# Enforcing access

With a kind of writing in the context, the access tool resets the fields that the principal may not
write to their zero, except those that the caller may always supply.  With reading alone, it projects
the fields that the principal may read.
-/

namespace FieldRules.Tool

/-- The tag key and the name of the access tool. -/
def accessName : String := "access"

/-- Enforces a mask on one field. -/
def accessApplier (principals : Principals) (mask : AccessMask) (isProvided : Bool) : Applier :=
  fun field r ctx =>
    let kind := ctx.access
    let isAllowed := principals.allows mask ctx.principal kind
    if kind.isWrite then
      if isProvided || isAllowed then ⟨r, ctx, .ok ()⟩
      else
        match field.store r field.zero with
        | .ok r => ⟨r, ctx, .ok ()⟩
        | .error e => ⟨r, ctx, .error e⟩
    else if kind.isRead && isAllowed then
      match field.read? r with
      | some v => ⟨r, ctx.project field.externalName v, .ok ()⟩
      | none => ⟨r, ctx, .error (.unprocessable field.location "field not found")⟩
    else ⟨r, ctx, .ok ()⟩

/-- The access tool. -/
def access : Tool where
  name := accessName
  applier registry field tag :=
    match tag, field.access with
    | some _, some mask =>
      .ok (some (accessApplier registry.principals mask field.isProvided))
    | _, _ => .ok none

end FieldRules.Tool
