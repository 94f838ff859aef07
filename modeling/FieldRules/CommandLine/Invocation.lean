import FieldRules.Access
import FieldRules.CommandLine.Arguments
import FieldRules.Constraint.Expression

/-!
# Invocations

The commands of the command line with their arguments, and the configuration file that goes with any
of them.
-/

namespace FieldRules.CommandLine

/-- What is asked for. -/
inductive Command where
  /-- The groups of a validation tag. -/
  | check (tag : String)
  /-- Whether a value passes a validation tag in a scope. -/
  | eval (tag value scope : String)
  /-- What an access tag grants to principals. -/
  | access (tag : String) (principals : List String)
  /-- The fields of a reference record. -/
  | fields (record : String)
  /-- What is registered. -/
  | info
  deriving DecidableEq, Repr

/-- A command with the path of its configuration file. -/
structure Invocation where
  configPath? : Option String
  command : Command
  deriving DecidableEq, Repr

/-- The option for the configuration file, which every command takes. -/
def configOption : OptionName := ⟨"config", 'c'⟩

/-- The option for the active scope. -/
def scopeOption : OptionName := ⟨"scope", 's'⟩

/-- The option for principals. -/
def principalsOption : OptionName := ⟨"principals", 'p'⟩

/-- The options that a command takes besides the one for the configuration file. -/
def optionsOf : String → List OptionName
  | "eval" => [scopeOption]
  | "access" => [principalsOption]
  | _ => []

/-- The command of a name and its arguments. -/
def Command.of? (name : String) (arguments : Arguments) : Option Command :=
  match name, arguments.words with
  | "check", [tag] => some (.check tag)
  | "eval", [tag, value] =>
    (Arguments.single? arguments.options scopeOption.long).map fun scope? =>
      .eval tag value (scope?.getD wildcard)
  | "access", [tag] =>
    let values := Arguments.valuesOf arguments.options principalsOption.long
    let parts := values.flatMap fun value => Principals.splitAt ',' value.toList
    some (.access tag (parts.map String.ofList))
  | "fields", [record] => some (.fields record)
  | "info", [] => some .info
  | _, _ => none

namespace Invocation

/-- The path of the configuration file, which may not be empty.  The option may stand before the
command and after it, once each, and the later one counts. -/
def configPath (before after : List (String × String)) : Option (Option String) := do
  let outer ← Arguments.single? before configOption.long
  let inner ← Arguments.single? after configOption.long
  if outer = some "" ∨ inner = some "" then none else some (inner <|> outer)

/-- Reads the words of a command line. -/
def read? (words : List String) : Option Invocation := do
  let (before, name, rest) ← Arguments.readCommand? [configOption] words
  let arguments ← Arguments.read? (configOption :: optionsOf name) rest
  let command ← Command.of? name arguments
  let path? ← configPath before arguments.options
  some ⟨path?, command⟩

end Invocation

end FieldRules.CommandLine
