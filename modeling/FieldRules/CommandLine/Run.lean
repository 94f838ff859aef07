import FieldRules.CommandLine.Folder
import FieldRules.CommandLine.Invocation
import FieldRules.Reference

/-!
# Running commands

What a command line prints, and the code that it ends with.  A command first loads its configuration
file, if it has one, and then works on a catalog with the reference records registered, except that
access tags are read with the configured principals and those of the command alone.

## Main definitions

* `Fault` — what ends a command without success.
* `Report` — what is printed.
* `run` — runs a command line.
-/

namespace FieldRules.CommandLine

/-- What ends a command without success. -/
inductive Fault where
  /-- A file that cannot be read. -/
  | unreadable (path : String) (obstacle : Obstacle)
  /-- A configuration file that is no document, or the document of something else. -/
  | document (dialect : Config.Dialect)
  | configuration (e : Error)
  | registration (e : Error)
  | principals (e : Error)
  | tag (e : Error)
  | introspection (e : Error)
  | unknownRecord (name : String)
  /-- A value that does not pass a tag. -/
  | unsatisfied (value tag scope : String)

namespace Fault

/-- How a fault is told. -/
def message : Fault → String
  | .unreadable path obstacle => "failed to read \"" ++ path ++ "\": " ++ obstacle.message
  | .document .json => "JSON parse error: " ++ jsonFaultText
  | .document .yaml => "YAML parse error: " ++ jsonFaultText
  | .configuration e => "config invalid: " ++ e.message
  | .registration e => "registration failed: " ++ e.message
  | .principals e => e.message
  | .tag e => "tag invalid: " ++ e.message
  | .introspection e => "introspection failed: " ++ e.message
  | .unknownRecord name => "unknown record \"" ++ name ++ "\""
  | .unsatisfied value wanted scope =>
    "\"" ++ value ++ "\" does not satisfy \"" ++ wanted ++ "\" in scope \"" ++ scope ++ "\""

/-- How a fault is printed: the text of a reader's fault stays an open line. -/
def line : Fault → String
  | .document dialect => "error: " ++ message (.document dialect)
  | f => "error: " ++ message f ++ "\n"

end Fault

/-- What a command line prints, and the code that it ends with. -/
structure Report where
  code : Nat
  output : String
  errors : String
  deriving DecidableEq, Repr

namespace Report

/-- A command line that is none. -/
def misuse : Report := ⟨2, "", ""⟩

/-- A success. -/
def success (output : String) : Report := ⟨0, output, ""⟩

/-- A failure, after some output. -/
def failure (output : String) (f : Fault) : Report := ⟨1, output, f.line⟩

end Report

/-! ## Configuration files -/

/-- The last name of a path, if it names a file. -/
def fileName? (path : String) : Option (List Char) :=
  let names := (splitPath path.toList).filter fun n => n != [] && n != ['.']
  names.getLast?.filter fun n => n != ['.', '.']

/-- What follows the last point of a file's name, where something stands before it. -/
def extension? (path : String) : Option String := do
  let backwards := (← fileName? path).reverse
  match backwards.dropWhile (· != '.') with
  | _ :: _ :: _ => some (String.ofList (backwards.takeWhile (· != '.')).reverse)
  | _ => none

/-- The dialect of a configuration file, by its name. -/
def dialectOf (path : String) : Config.Dialect :=
  match extension? path with
  | some e => if e.map Char.toLower == "json" then .json else .yaml
  | none => .yaml

/-- The catalog to begin with.  `fileText` answers the text of a file, or why it cannot be read. -/
def baseCatalog (fileText : String → Except Obstacle String) :
    Option String → Except Fault Catalog
  | none => .ok .new
  | some path =>
    match fileText path with
    | .error obstacle => .error (.unreadable path obstacle)
    | .ok text =>
      match Config.ofText? (dialectOf path) text with
      | none => .error (.document (dialectOf path))
      | some config => (Catalog.ofConfig config).mapError .configuration

/-- The catalog with the reference records registered. -/
def fullCatalog (base : Catalog) : Except Fault Catalog :=
  (Reference.register base).mapError .registration

/-! ## Commands -/

/-- Lines of output. -/
def unlines (lines : List String) : String := String.join (lines.map (· ++ "\n"))

/-- A text with blanks after it up to a width. -/
def padded (width : Nat) (s : String) : String :=
  s ++ String.ofList (List.replicate (width - s.length) ' ')

/-- The groups of a validation tag. -/
def groupsOf (c : Catalog) (tag : String) : Except Fault (List (String × Constraint)) :=
  (c.registry.vocabulary.parseTag tag).mapError .tag

/-- The groups of a validation tag as a document. -/
def groupsJson (groups : List (String × Constraint)) : Json :=
  .array (groups.map fun g => .ofParts [("scope", .string g.1), ("constraint", g.2.details)])

/-- The lines that describe an access tag. -/
def accessLines (principals : Principals) (spec : AccessSpec) : List String :=
  (principals.describe spec.mask).map (fun grant => padded 12 grant.1 ++ " " ++ grant.2.display)
    ++ [padded 12 "provided" ++ " " ++ if spec.isProvided then "yes" else "no"]

/-- The line that describes a field. -/
def fieldLine (table : FieldTable) (f : Field) : String :=
  let tools := table.tools.filter fun tool =>
    (table.bucket tool).any fun b => b.1.location == f.location
  padded 20 f.location ++ " " ++ padded 12 f.externalName ++ " " ++ f.kind.name ++ " ["
    ++ String.intercalate "," tools ++ "]"

/-- The lines that tell what is registered. -/
def infoLines (c : Catalog) : List String :=
  let part (title : String) (names : List String) : List String :=
    title :: names.map ("  " ++ ·)
  part "Tools:" c.toolNames
    ++ "" :: part "Field functions:" c.registry.functions.keys
    ++ "" :: part "Built-in constraints:" Constraint.builtinNames
    ++ "" :: part "Access principals:" c.registry.principals.names

/-- The reference record of a name in letters of any case. -/
def recordOf (name : String) : Except Fault RecordType :=
  let lower := name.map Char.toLower
  match Reference.types.find? fun t => t.info.name.map Char.toLower == lower with
  | some t => .ok t
  | none => .error (.unknownRecord lower)

/-- The report of a result whose output is known. -/
def reported : Except Fault String → Report
  | .ok output => .success output
  | .error f => .failure "" f

/-- Runs a command on the catalog to begin with. -/
def Command.run (base : Catalog) : Command → Report
  | .check tag => reported do
    let c ← fullCatalog base
    let groups ← groupsOf c tag
    .ok ((groupsJson groups).wide 0 ++ "\n")
  | .eval tag value scope =>
    let passes : Except Fault Bool := do
      let c ← fullCatalog base
      let groups ← groupsOf c tag
      .ok (Tool.passes c.registry.aliases groups scope (Value.infer value))
    match passes with
    | .ok true => .success "pass\n"
    | .ok false => .failure "fail\n" (.unsatisfied value tag scope)
    | .error f => .failure "" f
  | .access tag names => reported do
    let c ← (base.registerPrincipals names).mapError Fault.principals
    let spec ← (c.registry.principals.parseTag tag).mapError Fault.tag
    .ok (unlines (accessLines c.registry.principals spec))
  | .fields name => reported do
    let c ← fullCatalog base
    let t ← recordOf name
    let table ← (c.introspect t).mapError Fault.introspection
    .ok (unlines (table.fields.map (fieldLine table)))
  | .info => reported do
    let c ← fullCatalog base
    .ok (unlines (infoLines c))

/-- Runs an invocation. -/
def Invocation.run (fileText : String → Except Obstacle String) (i : Invocation) : Report :=
  match baseCatalog fileText i.configPath? with
  | .ok base => i.command.run base
  | .error f => .failure "" f

/-- Runs the words of a command line. -/
def run (fileText : String → Except Obstacle String) (words : List String) : Report :=
  match Invocation.read? words with
  | some i => i.run fileText
  | none => .misuse

end FieldRules.CommandLine
