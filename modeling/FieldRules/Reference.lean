import FieldRules.Catalog
import FieldRules.Tool.Trim

/-!
# Reference records

A small domain that uses every tool: a widget, a postal address, an audit stamp, and a customer
account with an address and a stamp inside.  Its registration adds three principals, two field
functions, a scope alias and the trim tool to a catalog.

## Main definitions

* `Reference.widget`, `Reference.address`, `Reference.audit`, `Reference.account` — the types.
* `Reference.register` — what the types need in a catalog.
-/

namespace FieldRules.Reference

/-! ## Types -/

/-- An exported attribute of a type with its tags. -/
def plain (name : String) (type : FieldType) (tags : List (String × String)) : Attribute Slot :=
  .plain ⟨name, type.kind, type.isOptional, true, tags⟩ ⟨type, true, true⟩

/-- An attribute that is not exported. -/
def unexported (name : String) (type : FieldType) : Attribute Slot :=
  .plain ⟨name, type.kind, type.isOptional, false, []⟩ ⟨type, true, true⟩

/-- An exported attribute that is a record of its own. -/
def nested (name : String) (nesting : Nesting) (t : RecordType) : Attribute Slot :=
  .nested ⟨name, .record, false, true, []⟩ nesting t.info t.attributes

/-- What is known of a reference type. -/
def info (name : String) (methods : List Method) : TypeInfo := ⟨"reference " ++ name, name, methods⟩

/-- One field for each kind of default: a function, a text and an integer. -/
def widget : RecordType where
  info := info "Widget" []
  attributes := [
    plain "color" .text [("default", "$color")],
    plain "label" .text [("default", "=123")],
    plain "size" (.int .w64) [("default", "=123")]]

/-- A postal address. -/
def address : RecordType where
  info := info "Address" []
  attributes := [
    plain "street" .text [("validate", "required,minlen(1)")],
    plain "city" .text [("default", "?=Springfield")]]

/-- Who made a record, and which revision it is. -/
def audit : RecordType where
  info := info "Audit" []
  attributes := [
    plain "created_by" .text
      [("json", "createdBy"), ("default", "create:$actor"), ("access", "r-r-r-")],
    plain "revision" (.int .w64) [("default", "$_seq"), ("access", "r-r-r-")]]

/-- The part of an account's email address before the at sign. -/
def displayName : Method where
  name := "display_name"
  body read :=
    match read "email" with
    | some (.text email) => .text (String.ofList (email.toList.takeWhile (· != '@')))
    | _ => .text ""

/-- A customer account. -/
def account : RecordType where
  info := info "Account" [displayName]
  attributes := [
    plain "id" .text [("id", "?$_seq,accountId")],
    plain "email" .text
      [("json", "email,omitempty"), ("validate", "required,regexp('^[^@ ]+@[^@ ]+$')"),
        ("access", "rwr-r-"), ("trim", "both")],
    plain "plan" .text
      [("default", "create:=free;*:?=free"), ("validate", "oneof(free,pro)"),
        ("access", "rwr---")],
    plain "balance" (.int .w64) [("validate", "int(>=,0)"), ("access", "r-r-rw")],
    plain "secret" .text [("access", "rw----")],
    plain "owner" .text [("access", "--r-r-,p")],
    nested "address" .named address,
    nested "audit" .embedded audit,
    unexported "note" .text]

/-- The reference types. -/
def types : List RecordType := [account, address, audit, widget]

/-- The reference type of a name. -/
def type? (name : String) : Option RecordType := types.find? fun t => t.info.name == name

/-! ## Registration -/

/-- The principals of the domain. -/
def principals : List String := ["owner", "support", "billing"]

/-- The color of every widget. -/
def colorFunction : FieldFunction := fun _ _ ctx => (.ok (.text "orange"), ctx)

/-- Who acts: the context's `actor`, or the system. -/
def actorFunction : FieldFunction := fun _ _ ctx =>
  (.ok ((ctx.get? "actor").getD (.text "system")), ctx)

/-- Registers what the types need. -/
def register (c : Catalog) : Except Error Catalog := do
  let c ← c.registerPrincipals principals
  let c ← c.registerFunctions [("$color", colorFunction)]
  let c ← c.registerFunctions [("$actor", actorFunction)]
  let c ← c.addAlias "post" "create"
  .ok (c.setTool Tool.trimName (some Tool.trim))

end FieldRules.Reference
