import FieldRules.Tool.Access
import FieldRules.Tool.Default
import FieldRules.Tool.Validate

/-!
# Field tables

The table of a record type lists its fields, in the order of a depth-first walk, each with what the
tools do to it.  Attributes that are not exported are left out with everything below them.

A field that is not in a named nested record is called flat.  As the walk goes on it keeps an index of
the external names.  A flat field takes its name from a nested field that it belonged to before, and
a flat field whose name belongs to a flat field already is left out; a nested field takes only a name
that no field has.  Everything that is wrong with the tags of a type is told at once.

## Main definitions

* `sites` — the exported plain attributes of a type, in the order in which the walk meets them.
* `FieldTable.Walk` — where the walk stands, and `FieldTable.Walk.visit`, which goes on to a site.
* `FieldTable.build`.
-/

namespace FieldRules

/-- A plain attribute where the walk meets it. -/
structure Site where
  declaration : Declaration
  location : String
  isNested : Bool
  deriving DecidableEq, Repr

mutual

/-- The exported plain attributes of an attribute, depth first.  `way` is the location of the record
around it with its separator. -/
def siteOf {α : Type} (way : String) (isNested : Bool) : Attribute α → List Site
  | .plain d _ => if d.isExported then [⟨d, way ++ d.name, isNested⟩] else []
  | .nested d .embedded _ attributes =>
    if d.isExported then sites (way ++ d.name ++ "+") isNested attributes else []
  | .nested d .named _ attributes =>
    if d.isExported then sites (way ++ d.name ++ ".") true attributes else []

/-- The exported plain attributes of some attributes, depth first. -/
def sites {α : Type} (way : String) (isNested : Bool) : List (Attribute α) → List Site
  | [] => []
  | a :: rest => siteOf way isNested a ++ sites way isNested rest

end

/-- The part of a text after its first comma. -/
def afterComma? (s : String) : Option (List Char) :=
  match s.toList.dropWhile (· != ',') with
  | [] => none
  | _ :: rest => some rest

/-- A name without the blanks around it, unless nothing is left. -/
def properName? (s : List Char) : Option String :=
  let name := Text.trim s
  if name.isEmpty then none else some (String.ofList name)

/-- What a field is called outside: the second part of its id tag, else the first part of its `json`
tag, else its declared name. -/
def Declaration.externalName (d : Declaration) : String :=
  let fromId := ((d.tag? Tool.idName).bind afterComma?).bind properName?
  let fromJson := (d.tag? "json").bind fun tag => properName? (Tool.beforeComma tag)
  (fromId <|> fromJson).getD d.name

/-- A field and what each tool does to it, in the order of the tags' keys. -/
structure Entry where
  field : Field
  bindings : List (String × Applier)

/-- Each name of an index stands for the position of an entry whose field carries it. -/
def IsIndex (index : Dict Nat) (entries : List Entry) : Prop :=
  ∀ name i, index.find? name = some i →
    ∃ e, entries[i]? = some e ∧ e.field.externalName = name

theorem isIndex_nil (entries : List Entry) : IsIndex [] entries := nofun

theorem IsIndex.append {index : Dict Nat} {entries : List Entry} (h : IsIndex index entries)
    (e : Entry) : IsIndex index (entries ++ [e]) := by
  intro name i hi
  obtain ⟨e', he', hname⟩ := h name i hi
  exact ⟨e', List.getElem?_append_left (List.getElem?_eq_some_iff.1 he').1 ▸ he', hname⟩

/-- A name can be given to the field that comes next. -/
theorem IsIndex.insert {index : Dict Nat} {entries : List Entry} (h : IsIndex index entries)
    (e : Entry) : IsIndex (index.insert e.field.externalName entries.length) (entries ++ [e]) := by
  intro name i hi
  rw [Dict.find?_insert] at hi
  split at hi
  · next hname =>
    cases hi
    exact ⟨e, by simp, hname⟩
  · exact h.append e name i hi

/-- The fields of a record type. -/
structure FieldTable where
  typeName : String
  entries : List Entry
  /-- The position of the field that each external name belongs to. -/
  index : Dict Nat
  idField? : Option Field
  isIndex : IsIndex index entries

namespace FieldTable

/-- The description of a field by its declaration, but for its access tag. -/
def bareField (s : Site) : Field :=
  let d := s.declaration
  { Field.untagged s.location d.kind d.isOptional with
    name := d.name
    externalName := d.externalName
    tags := d.tags
    isNested := s.isNested
    isId := (d.tag? Tool.idName).isSome
    bypassIfSet := match d.tag? Tool.defaultName with
      | some tag => (Text.trimStart tag.toList).head? == some '?'
      | none => false
    default? := d.tag? Tool.defaultName }

/-- The description of a field, and what is wrong with its access tag. -/
def fieldOf (registry : Registry) (s : Site) : Field × List Error :=
  let bare := bareField s
  match s.declaration.tag? Tool.accessName with
  | none => (bare, [])
  | some tag =>
    match registry.principals.parseTag tag with
    | .ok spec => ({ bare with access := some spec.mask, isProvided := spec.isProvided }, [])
    | .error e => (bare, [.field s.location e])

/-- What the tools do to a field, and what is wrong with its tags for them. -/
def bindingsOf (registry : Registry) (field : Field) (d : Declaration) :
    Dict Tool → List (String × Applier) × List Error
  | [] => ([], [])
  | (key, tool) :: rest =>
    let (bindings, errors) := bindingsOf registry field d rest
    match tool.applier registry field (d.tag? key) with
    | .ok (some applier) => ((tool.name, applier) :: bindings, errors)
    | .ok none => (bindings, errors)
    | .error e => (bindings, .field field.location e :: errors)

/-- The entry of a field, and what is wrong with its tags. -/
def entryOf (registry : Registry) (tools : Dict Tool) (s : Site) : Entry × List Error :=
  let (field, accessErrors) := fieldOf registry s
  let (bindings, toolErrors) := bindingsOf registry field s.declaration tools
  (⟨field, bindings⟩, accessErrors ++ toolErrors)

/-- What is wrong with the number of id fields. -/
def idErrors (registry : Registry) (typeName : String) (ids : List Field) : List Error :=
  let no (text : String) : List Error :=
    [.configuration ("type " ++ typeName ++ " must designate exactly one id field, found " ++ text)]
  match ids with
  | [] => if registry.requiresId then no "none" else []
  | [_] => []
  | many =>
    no (toString many.length ++ ": " ++ String.intercalate ", " (many.map Field.location))

/-- The only field of a list that has just one. -/
def only? : List Field → Option Field
  | [f] => some f
  | _ => none

/-! ## The walk -/

/-- Where the walk stands: the fields that it has kept, the index of their external names, and what
has been wrong so far. -/
structure Walk where
  entries : List Entry
  index : Dict Nat
  errors : ErrorBatch
  isIndex : IsIndex index entries

namespace Walk

/-- The walk before the first site. -/
def start : Walk := ⟨[], [], .empty, isIndex_nil []⟩

/-- Whether the field that a name belongs to is nested, if it belongs to one. -/
def ownerIsNested? (w : Walk) (name : String) : Option Bool :=
  ((w.index.find? name).bind fun i => w.entries[i]?).map fun e => e.field.isNested

/-- Keeps a field, with an index in which it has its place. -/
def keep (w : Walk) (found : Entry × List Error) (index : Dict Nat)
    (h : IsIndex index (w.entries ++ [found.1])) : Walk :=
  ⟨w.entries ++ [found.1], index, found.2.foldl ErrorBatch.push w.errors, h⟩

/-- Goes on to a site. -/
def visit (registry : Registry) (tools : Dict Tool) (w : Walk) (s : Site) : Walk :=
  let found := entryOf registry tools s
  let name := found.1.field.externalName
  match w.ownerIsNested? name, s.isNested with
  | some false, false => w
  | some _, true => w.keep found w.index (w.isIndex.append found.1)
  | _, _ => w.keep found (w.index.insert name w.entries.length) (w.isIndex.insert found.1)

/-- The walk over some sites. -/
def visitAll (registry : Registry) (tools : Dict Tool) (all : List Site) : Walk :=
  all.foldl (visit registry tools) start

end Walk

/-! ## Tables -/

/-- Builds the table of a record type, or tells everything that is wrong with its tags: the faults of
each field in the order of the walk, then that of the id. -/
def build (registry : Registry) (tools : Dict Tool) (t : RecordType) : Except Error FieldTable := do
  let w := Walk.visitAll registry tools (sites "" false t.attributes)
  let ids := (w.entries.map Entry.field).filter Field.isId
  ((idErrors registry t.info.name ids).foldl ErrorBatch.push w.errors).result
  .ok ⟨t.info.name, w.entries, w.index, only? ids, w.isIndex⟩

/-- The fields in the order of the walk. -/
def fields (t : FieldTable) : List Field := t.entries.map Entry.field

/-- The field that an external name belongs to. -/
def field? (t : FieldTable) (externalName : String) : Option Field :=
  (t.index.find? externalName).bind fun i => t.fields[i]?

/-- Every external name with the field it belongs to, in the order of the names. -/
def named (t : FieldTable) : Dict Field :=
  Dict.ofList (t.fields.filterMap fun f => (t.field? f.externalName).map fun g => (f.externalName, g))

/-- The fields that a tool does something to, and what, in the order of the walk. -/
def bucket (t : FieldTable) (tool : String) : List (Field × Applier) :=
  t.entries.flatMap fun e => (e.bindings.filter fun b => b.1 == tool).map fun b => (e.field, b.2)

/-- The names of the tools that do something to some field, in order. -/
def tools (t : FieldTable) : List String :=
  Dict.keys (Dict.ofList ((t.entries.flatMap Entry.bindings).map fun b => (b.1, ())))

end FieldTable

end FieldRules
