import FieldRules.Config
import FieldRules.FieldTable

/-!
# Catalogs

A catalog is a registry together with the tools that look at tags, by the key of the tag.  It is
assembled by registrations, each of which is checked as it is made; then passes run the tools over
records.  A pass visits every field even after a failure, and tells all failures at once.

## Main definitions

* `Catalog.new`, `Catalog.ofConfig` and the registrations.
* `Catalog.introspect` — the table of a record type.
* `Catalog.applyTools` — a pass over a record.
* `Catalog.projectReadable`, `Catalog.removeNonWritable`, `Catalog.copyProvided`.
-/

namespace FieldRules

/-- A registry with the tools by tag key. -/
structure Catalog where
  registry : Registry
  tools : Dict Tool

namespace Catalog

/-- A catalog in which nothing is registered. -/
def empty : Catalog := ⟨.empty, []⟩

/-- The next number of the context's `seq` counter. -/
def sequenceFunction : FieldFunction := fun _ _ ctx =>
  let (n, ctx) := ctx.increment "seq" 1
  (.ok (.int n), ctx)

/-- The name of the active scope. -/
def scopeFunction : FieldFunction := fun _ _ ctx => (.ok (.text ctx.scope), ctx)

/-- A catalog with the tools and field functions that are always there. -/
def new : Catalog where
  registry := { Registry.empty with
    functions := Dict.ofList [("$_seq", sequenceFunction), ("$_scope", scopeFunction)] }
  tools := Dict.ofList [(Tool.defaultName, Tool.default), (Tool.idName, Tool.id),
    (Tool.validateName, Tool.validate), (Tool.accessName, Tool.access)]

/-! ## Registrations -/

/-- Registers principals. -/
def registerPrincipals (c : Catalog) (names : List String) : Except Error Catalog := do
  let principals ← c.registry.principals.register names
  .ok { c with registry := { c.registry with principals := principals } }

/-- Registers field functions, after checking all their names. -/
def registerFunctions (c : Catalog) (functions : List (String × FieldFunction)) :
    Except Error Catalog := do
  functions.forM fun f => Registry.checkFunctionName f.1 false
  let all := functions.foldl (fun d f => Dict.insert d f.1 f.2) c.registry.functions
  .ok { c with registry := { c.registry with functions := all } }

/-- Registers constants. -/
def registerConstants (c : Catalog) (constants : List (String × Value)) : Catalog :=
  let all := constants.foldl (fun d e => Dict.insert d (withSigil e.1) e.2) c.registry.constants
  { c with registry := { c.registry with constants := all } }

/-- Declares a constraint. -/
def declareConstraint (c : Catalog) (name : String) (constraint : Constraint) : Catalog :=
  { c with registry :=
    { c.registry with vocabulary := c.registry.vocabulary.register name constraint } }

/-- Declares the constraint of an expression, which may refer to those declared before. -/
def declareExpression (c : Catalog) (name source : String) : Except Error Catalog :=
  match c.registry.vocabulary.parse source with
  | .ok constraint => .ok (c.declareConstraint name constraint)
  | .error e =>
    .error (.configuration ("named constraint \"" ++ name ++ "\": " ++ e.message))

/-- Declares the constraints of expressions, in order. -/
def declareExpressions (c : Catalog) (expressions : List (String × String)) :
    Except Error Catalog :=
  expressions.foldlM (fun c e => c.declareExpression e.1 e.2) c

/-- Makes a name stand for a scope. -/
def addAlias (c : Catalog) (name scope : String) : Except Error Catalog := do
  let aliases ← c.registry.aliases.insert name scope
  .ok { c with registry := { c.registry with aliases := aliases } }

/-- Gives a tag key to a tool, or to none. -/
def setTool (c : Catalog) (key : String) (tool : Option Tool) : Catalog :=
  match tool with
  | some tool => { c with tools := c.tools.insert key tool }
  | none => { c with tools := c.tools.erase key }

/-- Says whether every record type must have an id field. -/
def requireId (c : Catalog) (isRequired : Bool) : Catalog :=
  { c with registry := { c.registry with requiresId := isRequired } }

/-- The catalog of a configuration. -/
def ofConfig (config : Config) : Except Error Catalog := do
  let c ← new.registerPrincipals config.principals
  let c := c.registerConstants (config.constants.map fun e => (e.1, Value.ofJson e.2))
  let c ← c.declareExpressions config.constraints
  let c := c.requireId config.requireId
  config.scopeAliases.foldlM (fun c e => c.addAlias e.1 e.2) c

/-! ## Tables -/

/-- The table of a record type. -/
def introspect (c : Catalog) (t : RecordType) : Except Error FieldTable :=
  FieldTable.build c.registry c.tools t

/-- The names of the tools, in the order of their tag keys. -/
def toolNames (c : Catalog) : List String := c.tools.map fun e => e.2.name

/-! ## Passes -/

mutual

/-- Attributes an error to a field, and each error of a batch to it, unless it is attributed to
the field already. -/
def attributed (location : String) : Error → Error
  | .batch errors => .batch (allAttributed location errors)
  | e => if e.location? = some location then e else .field location e

def allAttributed (location : String) : List Error → List Error
  | [] => []
  | e :: rest => attributed location e :: allAttributed location rest

end

/-- The state of a pass: the record, the context, and the errors so far. -/
structure Pass where
  record : Record
  context : Context
  errors : ErrorBatch

/-- Applies one binding. -/
def Pass.step (p : Pass) (binding : Field × Applier) : Pass :=
  let out := binding.2 binding.1 p.record p.context
  match out.result with
  | .ok () => ⟨out.record, out.context, p.errors⟩
  | .error e => ⟨out.record, out.context, p.errors.push (attributed binding.1.location e)⟩

/-- Runs tools over a record, by its table. -/
def runPass (table : FieldTable) (names : List String) (r : Record) (ctx : Context) : Outcome :=
  let p := (names.flatMap table.bucket).foldl Pass.step ⟨r, ctx, .empty⟩
  ⟨p.record, p.context, p.errors.result⟩

/-- Runs tools over a record in the order of their names.  A name that no tool has, or a type whose
tags are mistaken, stops the pass before it begins. -/
def applyTools (c : Catalog) (names : List String) (r : Record) (ctx : Context) : Outcome :=
  match names.find? fun name => !c.toolNames.contains name with
  | some name => ⟨r, ctx, .error (.configuration ("unknown tool \"" ++ name ++ "\""))⟩
  | none =>
    match c.introspect r.type with
    | .error e => ⟨r, ctx, .error e⟩
    | .ok table => runPass table names r ctx

/-- Fills the fields: ids first, then defaults. -/
def applyDefaults (c : Catalog) : Record → Context → Outcome :=
  c.applyTools [Tool.idName, Tool.defaultName]

/-- Checks the fields. -/
def validate (c : Catalog) : Record → Context → Outcome := c.applyTools [Tool.validateName]

/-- Resets the fields that a principal may not write. -/
def removeNonWritable (c : Catalog) (r : Record) (principal : Principal) (kind : AccessKind) :
    Outcome :=
  c.applyTools [Tool.accessName] r ((Context.empty.setPrincipal principal).setAccess kind)

/-- The fields that a principal may read, by external name.  A field without an access tag may be
read by everyone. -/
def projectReadable (c : Catalog) (r : Record) (principal : Principal) :
    Except Error (Dict Value) := do
  let table ← c.introspect r.type
  .ok (table.named.filterMap fun e =>
    let isReadable := match e.2.access with
      | some mask => c.registry.principals.allows mask principal .reading
      | none => true
    if isReadable then (e.2.read? r).map fun v => (e.1, v) else none)

/-- Copies one provided field, unless it is zero where it comes from. -/
def copyField (source : Record) (p : Record × ErrorBatch) (f : Field) : Record × ErrorBatch :=
  match f.read? source with
  | none => p
  | some v =>
    if v.isZero then p
    else
      match f.store p.1 v with
      | .ok target => (target, p.2)
      | .error e => (p.1, p.2.push e)

/-- Copies the provided fields that are not zero from one record into another of the same type. -/
def copyProvided (c : Catalog) (source target : Record) : Record × Except Error Unit :=
  if source.info.key ≠ target.info.key then
    (target, .error (.configuration ("cannot copy provided fields from " ++ source.info.name
      ++ " into " ++ target.info.name)))
  else
    match c.introspect source.type with
    | .error e => (target, .error e)
    | .ok table =>
      let (target, errors) :=
        (table.fields.filter Field.isProvided).foldl (copyField source) (target, .empty)
      (target, errors.result)

/-! ## Known types -/

/-- The record types whose tables a catalog has built, by their keys.  A type whose tags are
mistaken is not among them. -/
structure Known where
  keys : List String
  deriving DecidableEq, Repr

namespace Known

/-- No table has been built. -/
def empty : Known := ⟨[]⟩

/-- After the table of a type has been asked for. -/
def afterIntrospect (k : Known) (c : Catalog) (t : RecordType) : Known :=
  match c.introspect t with
  | .ok _ => if k.keys.contains t.info.key then k else ⟨t.info.key :: k.keys⟩
  | .error _ => k

/-- After a pass. -/
def afterApply (k : Known) (c : Catalog) (names : List String) (r : Record) : Known :=
  if names.all c.toolNames.contains then k.afterIntrospect c r.type else k

/-- After provided fields have been copied. -/
def afterCopy (k : Known) (c : Catalog) (source target : Record) : Known :=
  if source.info.key = target.info.key then k.afterIntrospect c source.type else k

end Known

end Catalog

end FieldRules
