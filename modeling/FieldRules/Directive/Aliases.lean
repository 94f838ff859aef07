import FieldRules.Constraint.Expression

/-!
# Scope aliases

Other names for scopes.  A name stands for one scope at most, never for itself, and every scope has
no aliases.
-/

namespace FieldRules

/-- The scopes that aliases stand for. -/
structure Aliases where
  targets : Dict String
  deriving DecidableEq, Repr

namespace Aliases

/-- No aliases. -/
def empty : Aliases := ⟨[]⟩

/-- Makes a name stand for a scope.  Doing so twice is no mistake. -/
def insert (a : Aliases) (name scope : String) : Except Error Aliases :=
  if name = wildcard ∨ scope = wildcard then
    .error (.configuration "the wildcard scope cannot be aliased")
  else if name = scope then
    .error (.configuration ("scope alias \"" ++ name ++ "\" points to itself"))
  else
    match a.targets.find? name with
    | some existing =>
      if existing = scope then .ok a
      else
        .error (.configuration ("scope alias \"" ++ name ++ "\" already refers to \"" ++ existing
          ++ "\", cannot redefine it as \"" ++ scope ++ "\""))
    | none => .ok ⟨a.targets.insert name scope⟩

/-- The scope that a name stands for, which is the name itself when it is no alias. -/
def resolve (a : Aliases) (name : String) : String := (a.targets.find? name).getD name

/-- The aliases of a scope, in order. -/
def aliasesOf (a : Aliases) (scope : String) : List String :=
  (a.targets.filter fun e => e.2 == scope).map Prod.fst

/-- How many aliases there are. -/
def size (a : Aliases) : Nat := a.targets.length

end Aliases

end FieldRules
