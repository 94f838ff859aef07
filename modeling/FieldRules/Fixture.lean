import FieldRules.Catalog
import FieldRules.Yaml.Format

/-!
# Fixtures

A fixture is a document of expectations: validation tags with the values that pass or fail them,
access tags with what they grant, and tags that must be refused.  It brings its own registrations,
and running it tells for each case what was expected and what came out.

## Main definitions

* `Fixture.ofTexts?` — the fixtures of some texts.
* `Fixture.run` — the results of its cases, in order.
-/

namespace FieldRules

namespace Fixture

/-- A value and whether it passes. -/
structure ValueCase where
  name : String
  value : Json
  scope? : Option String
  expect : Bool

/-- A validation tag with its cases, or with a part of the message that refuses it. -/
structure ExpressionCase where
  tag : String
  error? : Option String
  cases : List ValueCase

/-- An access tag with what it grants by principal, or with a part of the message that refuses it.
A principal that is not listed is granted nothing. -/
structure AccessCase where
  tag : String
  error? : Option String
  isProvided : Bool
  grants : Dict String

/-- What came out of a case. -/
structure CaseResult where
  name : String
  hasPassed : Bool
  expected : String
  actual : String
  deriving DecidableEq, Repr

end Fixture

/-- A document of expectations. -/
structure Fixture where
  name : String
  description : String
  principals : List String
  scopeAliases : Dict String
  constraints : Dict String
  expressions : List Fixture.ExpressionCase
  access : List Fixture.AccessCase

namespace Fixture

/-! ## Reading -/

variable {α : Type}

/-- The value case of a document. -/
def valueCase? (f : Format α) (x : α) : Option ValueCase := do
  let parts ← f.parts? ["name", "value", "scope", "expect"] x
  some {
    name := ← required? parts "name" f.text?
    value := ← optional? parts "value" f.json? .null
    scope? := ← optional? parts "scope" (f.option? f.text?) none
    expect := ← required? parts "expect" f.bool? }

/-- The expression case of a document. -/
def expressionCase? (f : Format α) (x : α) : Option ExpressionCase := do
  let parts ← f.parts? ["tag", "error", "cases"] x
  some {
    tag := ← required? parts "tag" f.text?
    error? := ← optional? parts "error" (f.option? f.text?) none
    cases := ← optional? parts "cases" (f.list? (valueCase? f)) [] }

/-- The access case of a document. -/
def accessCase? (f : Format α) (x : α) : Option AccessCase := do
  let parts ← f.parts? ["tag", "error", "provided", "grants"] x
  some {
    tag := ← required? parts "tag" f.text?
    error? := ← optional? parts "error" (f.option? f.text?) none
    isProvided := ← optional? parts "provided" f.bool? false
    grants := ← optional? parts "grants" (f.dict? f.text?) [] }

/-- The names of the parts, in order. -/
def partNames : List String :=
  ["name", "description", "principals", "scope_aliases", "constraints", "expressions", "access"]

/-- The fixture of a document. -/
def ofDocument? (f : Format α) (x : α) : Option Fixture := do
  let parts ← f.parts? partNames x
  some {
    name := ← required? parts "name" f.text?
    description := ← optional? parts "description" f.text? ""
    principals := ← optional? parts "principals" (f.list? f.text?) []
    scopeAliases := ← optional? parts "scope_aliases" (f.dict? f.text?) []
    constraints := ← optional? parts "constraints" (f.dict? f.text?) []
    expressions := ← optional? parts "expressions" (f.list? (expressionCase? f)) []
    access := ← optional? parts "access" (f.list? (accessCase? f)) [] }

/-- The fixture of a YAML text. -/
def ofText? (s : String) : Option Fixture :=
  (Yaml.Node.ofText? s).bind (ofDocument? Yaml.Node.format)

/-- The fixtures of the documents of a stream, where a stream without documents is an empty one. -/
def ofTexts? (texts : List String) : Option (List Fixture) :=
  (if texts.isEmpty then [""] else texts).mapM ofText?

/-! ## Running -/

/-- The catalog that a fixture runs on. -/
def catalog (f : Fixture) : Except Error Catalog := do
  let c ← Catalog.new.registerPrincipals f.principals
  let c ← f.scopeAliases.foldlM (fun c e => c.addAlias e.1 e.2) c
  c.declareExpressions f.constraints

/-- Whether a text occurs in another. -/
def occursIn (needle : List Char) : List Char → Bool
  | [] => needle.isEmpty
  | c :: rest => needle.isPrefixOf (c :: rest) || occursIn needle rest

/-- How a truth value is told. -/
def verdict (b : Bool) : String := if b then "true" else "false"

/-- The result of a case in which two truth values should agree. -/
def agreement (name : String) (expected actual : Bool) : CaseResult :=
  ⟨name, actual == expected, verdict expected, verdict actual⟩

/-- The result of a tag that must be refused with a message. -/
def refusal {α : Type} (tag expected : String) (built : Except Error α) : CaseResult :=
  let wanted := "error containing \"" ++ expected ++ "\""
  match built with
  | .ok _ => ⟨tag, false, wanted, "built"⟩
  | .error e => ⟨tag, occursIn expected.toList e.message.toList, wanted, e.message⟩

/-- The results of an expression case. -/
def ExpressionCase.run (c : Catalog) (x : ExpressionCase) : List CaseResult :=
  let built := c.registry.vocabulary.parseTag x.tag
  match x.error?, built with
  | some expected, _ => [refusal x.tag expected built]
  | none, .error e => [⟨x.tag, false, "tag builds", e.message⟩]
  | none, .ok groups =>
    x.cases.map fun v =>
      agreement (x.tag ++ " / " ++ v.name) v.expect
        (Tool.passes c.registry.aliases groups (v.scope?.getD wildcard) (Value.ofJson v.value))

/-- The kinds of access that some letters stand for. -/
def kindsOf (letters : String) : AccessKind :=
  let has (c : Char) : Bool := letters.toList.contains c
  ⟨has 'r', has 'c', has 'u'⟩

/-- The results of an access case: whether the field is provided, then what each registered
principal is granted. -/
def AccessCase.run (c : Catalog) (x : AccessCase) : List CaseResult :=
  let principals := c.registry.principals
  let parsed := principals.parseTag x.tag
  match x.error?, parsed with
  | some expected, _ => [refusal x.tag expected parsed]
  | none, .error e => [⟨x.tag, false, "tag parses", e.message⟩]
  | none, .ok spec =>
    agreement (x.tag ++ " / provided") x.isProvided spec.isProvided ::
      (principals.describe spec.mask).map fun grant =>
        let expected := (kindsOf ((x.grants.find? grant.1).getD "")).display
        let actual := grant.2.display
        ⟨x.tag ++ " / " ++ grant.1, actual == expected, expected, actual⟩

/-- The results of the cases, in order.  Registrations that fail are the only result. -/
def run (f : Fixture) : List CaseResult :=
  match f.catalog with
  | .error e => [⟨"catalog", false, "catalog builds", e.message⟩]
  | .ok c => f.expressions.flatMap (ExpressionCase.run c) ++ f.access.flatMap (AccessCase.run c)

end Fixture

end FieldRules
