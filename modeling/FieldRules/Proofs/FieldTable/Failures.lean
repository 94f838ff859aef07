import FieldRules.Proofs.Catalog.Built
import FieldRules.Proofs.FieldTable.Walk
import FieldRules.Reference

/-!
# Everything that is wrong with a type

The tags of a type fail one by one: for each field, its access tag where it does not parse and then
each tool that refuses its tag, and for the type the number of its ids.  The table of a type is built
when there is no failure, and otherwise the error tells every failure, once and in this order.

## Main definitions

* `FieldTable.failures` — what fails, in order.

## Main statements

* `Catalog.introspect_tells_failures` — the outcome of an introspection by the failures.
-/

namespace FieldRules

/-- The error of a result, if it has one. -/
def errorOf? {α : Type} : Except Error α → Option Error
  | .ok _ => none
  | .error e => some e

namespace FieldTable

variable {registry : Registry} {tools : Dict Tool} {t : RecordType} {table : FieldTable}

/-- The failure of an access tag that does not parse. -/
def accessFailure? (registry : Registry) (s : Site) : Option Error :=
  (s.declaration.tag? Tool.accessName).bind fun tag => errorOf? (registry.principals.parseTag tag)

/-- The failure of a tool at a field. -/
def toolFailure? (registry : Registry) (s : Site) (e : String × Tool) : Option Error :=
  errorOf? (e.2.applier registry (fieldOf registry s).1 (s.declaration.tag? e.1))

/-- What fails at a field: its access tag, then the tools in the order of their keys. -/
def siteFailures (registry : Registry) (tools : Dict Tool) (s : Site) : List Error :=
  ((accessFailure? registry s).toList ++ List.filterMap (toolFailure? registry s) tools).map
    (.field s.location)

/-- The failure of the number of ids: several fields with an id tag, or none where there must be
one. -/
def idFailure? (registry : Registry) (t : RecordType) : Option Error :=
  let ids := (fieldSites t).filter fun s => (s.declaration.tag? Tool.idName).isSome
  let found :=
    if ids.isEmpty then "none"
    else toString ids.length ++ ": " ++ String.intercalate ", " (ids.map Site.location)
  if 1 < ids.length ∨ ids.length = 0 ∧ registry.requiresId = true then
    some (.configuration
      ("type " ++ t.info.name ++ " must designate exactly one id field, found " ++ found))
  else none

/-- What fails at a type: at each of its fields in the order of the walk, and then the number of
ids. -/
def failures (registry : Registry) (tools : Dict Tool) (t : RecordType) : List Error :=
  (fieldSites t).flatMap (siteFailures registry tools) ++ (idFailure? registry t).toList

/-! ## The failures are what is wrong -/

theorem errors_fieldOf (registry : Registry) (s : Site) :
    (fieldOf registry s).2 = (accessFailure? registry s).toList.map (.field s.location) := by
  simp only [fieldOf, accessFailure?]
  split
  · next htag => simp [htag]
  · next tag htag =>
    rw [htag, Option.bind_some]
    split
    · next hparse => simp [hparse, errorOf?]
    · next hparse => simp [hparse, errorOf?]

theorem errors_bindingsOf (registry : Registry) (field : Field) (d : Declaration)
    (tools : Dict Tool) :
    (bindingsOf registry field d tools).2 =
      (List.filterMap (fun e : String × Tool => errorOf? (e.2.applier registry field (d.tag? e.1)))
        tools).map (.field field.location) := by
  induction tools with
  | nil => rfl
  | cons e rest ih =>
    obtain ⟨key, tool⟩ := e
    rw [bindingsOf]
    cases happlier : tool.applier registry field (d.tag? key) with
    | ok applier? => cases applier? <;> simpa [happlier, errorOf?] using ih
    | error e => simpa [happlier, errorOf?] using ih

theorem errorsAt_eq (registry : Registry) (tools : Dict Tool) (s : Site) :
    errorsAt registry tools s = siteFailures registry tools s := by
  rw [siteFailures, List.map_append, ← errors_fieldOf]
  change (fieldOf registry s).2 ++ (bindingsOf registry (fieldOf registry s).1 _ tools).2 = _
  rw [errors_bindingsOf, location_fieldOf]
  rfl

theorem idFaults_eq (registry : Registry) (t : RecordType) :
    idFaults registry t = (idFailure? registry t).toList := by
  have hids : ((fieldSites t).map fun s => (fieldOf registry s).1).filter Field.isId =
      ((fieldSites t).filter fun s => (s.declaration.tag? Tool.idName).isSome).map fun s =>
        (fieldOf registry s).1 := by
    rw [List.filter_map]
    refine congrArg _ (List.filter_congr fun s _ => ?_)
    rw [Function.comp_apply, fieldOf_eq]
    rfl
  rw [idFaults, hids, idFailure?]
  cases (fieldSites t).filter fun s => (s.declaration.tag? Tool.idName).isSome with
  | nil => cases hrequires : registry.requiresId <;> simp [idErrors, hrequires]
  | cons s rest =>
    cases rest with
    | nil => simp [idErrors]
    | cons s' rest => simp [idErrors, location_fieldOf, Function.comp_def]

theorem faults_eq (registry : Registry) (tools : Dict Tool) (t : RecordType) :
    faults registry tools t = failures registry tools t := by
  rw [faults, failures, idFaults_eq]
  refine congrArg (· ++ _) (List.flatMap_congr fun s _ => ?_)
  exact errorsAt_eq registry tools s

/-- A failure at a field is told of the field. -/
theorem exists_of_mem_siteFailures {s : Site} {e : Error}
    (he : e ∈ siteFailures registry tools s) : ∃ source, e = .field s.location source := by
  obtain ⟨source, -, rfl⟩ := List.mem_map.1 he
  exact ⟨source, rfl⟩

theorem isBatch_of_mem_failures {e : Error} (he : e ∈ failures registry tools t) :
    e.isBatch = false := by
  rw [failures, List.mem_append] at he
  rcases he with he | he
  · obtain ⟨s, -, he⟩ := List.mem_flatMap.1 he
    obtain ⟨source, rfl⟩ := exists_of_mem_siteFailures he
    rfl
  · rw [Option.mem_toList, idFailure?] at he
    split at he
    · cases he
      rfl
    · cases he

/-- A table is built exactly when nothing fails. -/
theorem exists_build_iff (registry : Registry) (tools : Dict Tool) (t : RecordType) :
    (∃ table, build registry tools t = .ok table) ↔ failures registry tools t = [] := by
  rw [← faults_eq]
  constructor
  · rintro ⟨table, htable⟩
    exact (of_build htable).1
  · intro hnone
    rw [build_eq, hnone]
    exact ⟨_, rfl⟩

/-- Otherwise each failure is told once, in order. -/
theorem leaves_of_build {e : Error} (h : build registry tools t = .error e) :
    e.leaves = failures registry tools t := by
  have hresult : ErrorBatch.result ⟨failures registry tools t⟩ = .error e := by
    rw [build_eq, faults_eq] at h
    cases hresult : ErrorBatch.result ⟨failures registry tools t⟩ with
    | ok u =>
      rw [hresult] at h
      cases h
    | error e' =>
      rw [hresult] at h
      cases h
      rfl
  rw [ErrorBatch.leaves_of_result hresult,
    Error.allLeaves_of_isBatch fun e he => isBatch_of_mem_failures he]

end FieldTable

/-- The access tool has an answer for every field: what is wrong with an access tag is told once. -/
theorem Tool.exists_access (registry : Registry) (field : Field) (tag : Option String) :
    ∃ applier?, Tool.access.applier registry field tag = .ok applier? := by
  cases tag <;> cases hmask : field.access <;> simp [Tool.access, hmask]

namespace Catalog

open FieldTable

/-- **Introspection tells everything that is wrong**: the table of a type is built exactly when
nothing fails, and otherwise the leaves of the error are the failures, in their order.  A failure at
a field is located there, and the access tool adds none to that of the tag.  In a catalog that is
built, the tools stand in the order of their keys. -/
theorem introspect_tells_failures (c : Catalog) (t : RecordType) :
    ((∃ table, c.introspect t = .ok table) ↔ failures c.registry c.tools t = []) ∧
      (∀ e, c.introspect t = .error e → e.leaves = failures c.registry c.tools t) ∧
      (∀ s ∈ fieldSites t, ∀ e ∈ siteFailures c.registry c.tools s,
        e.location? = some s.location) ∧
      (∀ field tag, ∃ applier?, Tool.access.applier c.registry field tag = .ok applier?) ∧
      (c.Built → Dict.Sorted c.tools) := by
  refine ⟨exists_build_iff c.registry c.tools t, fun e he => leaves_of_build he, ?_,
    Tool.exists_access c.registry, Built.sorted_tools⟩
  intro s _ e he
  obtain ⟨source, rfl⟩ := exists_of_mem_siteFailures he
  rfl

/-- A type without the id that is required, with tags that two tools refuse, and with one that is
refused twice. -/
def faulty : RecordType :=
  ⟨Reference.info "Faulty" [], [
    Reference.plain "owner" .text [(Tool.defaultName, "$missing")],
    Reference.plain "size" (.int .w64) [(Tool.defaultName, "=abc")],
    Reference.plain "code" .text [(Tool.accessName, "x"), (Tool.validateName, "len(1")]]⟩

/-- Each of its failures is told. -/
theorem introspect_tells_failures_faulty :
    ∃ e, (new.requireId true).introspect faulty = .error e ∧
      e.leaves = failures (new.requireId true).registry (new.requireId true).tools faulty ∧
      e.leaves.map Error.location? =
        [some "owner", some "size", some "code", some "code", none] := by
  have htold : (((new.requireId true).introspect faulty).map fun _ => ()).mapError
      (fun e => e.leaves.map Error.location?) =
        .error [some "owner", some "size", some "code", some "code", none] := by
    decide +kernel
  cases hresult : (new.requireId true).introspect faulty with
  | ok table =>
    rw [hresult] at htold
    cases htold
  | error e =>
    rw [hresult] at htold
    have hleaves := (introspect_tells_failures (new.requireId true) faulty).2.1 e hresult
    exact ⟨e, rfl, hleaves, Except.error.inj htold⟩

end Catalog

end FieldRules
