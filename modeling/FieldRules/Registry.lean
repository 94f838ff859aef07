import FieldRules.Applier

/-!
# Registries and tools

A registry holds what directives can refer to: principals, scope aliases, field functions, constants
and declared constraints.  A tool looks at a field and at what the tag for it says, and answers what
is to be done with the field, if anything.
-/

namespace FieldRules

/-- What directives can refer to. -/
structure Registry where
  principals : Principals
  aliases : Aliases
  functions : Dict FieldFunction
  constants : Dict Value
  vocabulary : Vocabulary
  /-- Whether every record type must have an id field. -/
  requiresId : Bool

namespace Registry

/-- Nothing is registered. -/
def empty : Registry := ⟨.empty, .empty, [], [], .empty, false⟩

/-- The field function of a name. -/
def function? (r : Registry) (name : String) : Option FieldFunction := r.functions.find? name

/-- The constant of a name. -/
def constant? (r : Registry) (name : String) : Option Value := r.constants.find? name

/-- How long the name of a field function may be. -/
def maxFunctionNameLength : Nat := 64

/-- Checks the name of a field function.  Names with an underscore after the sign are kept for the
functions that are always there. -/
def checkFunctionName (name : String) (isInternal : Bool) : Except Error Unit :=
  let no (text : String) : Except Error Unit :=
    .error (.configuration ("field function \"" ++ name ++ "\"" ++ text))
  match name.toList with
  | c :: rest =>
    if c ≠ sigil then no " must start with '$'"
    else if name.length < 2 ∨ maxFunctionNameLength < name.length then
      no (" must be 2 to " ++ toString maxFunctionNameLength ++ " characters long")
    else if rest.head? = some '_' ∧ ¬ isInternal then no ": names starting with '$_' are reserved"
    else .ok ()
  | [] => no " must start with '$'"

end Registry

/-- Turns what a tag says about a field into what is to be done with the field. -/
structure Tool where
  name : String
  /-- What is to be done with a field, given the text of its tag for the tool if it has one. -/
  applier : Registry → Field → Option String → Except Error (Option Applier)

end FieldRules
