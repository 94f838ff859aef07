import FieldRules.Proofs.FieldTable.Failures
import FieldRules.Proofs.FieldTable.Ownership

/-!
# The id of a type

The ids of a type are counted among the leaves that the walk keeps.  With more than one the type has
no table; and the table of a type has an id field exactly when one of the kept leaves carries an id
tag, which is then described by the id field.  A flat leaf that is left out, since an earlier flat
one carries its name, is no id whatever its tags say.

## Main definitions

* `FieldTable.idSites` — the leaves that count.

## Main statements

* `FieldTable.map_site_ids` — the fields with an id tag describe the leaves that count.
* `Catalog.introspect_id` — a type has at most one id, and its table knows it.
-/

namespace FieldRules

/-- Whether an attribute carries an id tag. -/
def Declaration.carriesId (d : Declaration) : Bool := (d.tag? Tool.idName).isSome

namespace FieldTable

variable {registry : Registry} {tools : Dict Tool} {t : RecordType} {table : FieldTable}

/-- The exported leaves that the walk keeps and that carry an id tag, in the order of the walk. -/
def idSites (t : RecordType) : List Site := (fieldSites t).filter fun s => s.declaration.carriesId

/-- What is wrong with several ids. -/
def severalIds (t : RecordType) : Error :=
  .configuration ("type " ++ t.info.name ++ " must designate exactly one id field, found "
    ++ (toString (idSites t).length ++ ": "
      ++ String.intercalate ", " ((idSites t).map Site.location)))

/-- Several ids are a failure of the type. -/
theorem idFailure?_of_several (registry : Registry) (h : 1 < (idSites t).length) :
    idFailure? registry t = some (severalIds t) := by
  have hne : (idSites t).isEmpty = false := by
    rw [List.isEmpty_eq_false_iff, ← List.length_pos_iff]
    omega
  simp only [idSites, Declaration.carriesId] at h hne
  simp [idFailure?, severalIds, idSites, Declaration.carriesId, h, hne]

theorem severalIds_mem_failures (registry : Registry) (tools : Dict Tool)
    (h : 1 < (idSites t).length) : severalIds t ∈ failures registry tools t := by
  rw [failures, idFailure?_of_several registry h]
  exact List.mem_append_right _ (List.mem_singleton_self _)

theorem only?_eq_some_iff {fields : List Field} {f : Field} :
    only? fields = some f ↔ fields = [f] := by
  rcases fields with _ | ⟨g, _ | ⟨g', rest⟩⟩ <;> simp [only?]

/-- The id field is the only field with an id tag. -/
theorem idField?_of_build (h : build registry tools t = .ok table) :
    table.idField? = only? (table.fields.filter Field.isId) := by
  rw [build_eq, map_eq_ok_iff] at h
  obtain ⟨⟨⟩, -, rfl⟩ := h
  rfl

/-- A field is an id as its tags say. -/
theorem isId_of_mem_fields (h : build registry tools t = .ok table) {f : Field}
    (hf : f ∈ table.fields) : f.isId = f.site.declaration.carriesId := by
  rw [fields_of_build h] at hf
  obtain ⟨s, -, rfl⟩ := List.mem_map.1 hf
  rw [fieldOf_eq]
  rfl

/-- The fields with an id tag describe the leaves that count. -/
theorem map_site_ids (h : build registry tools t = .ok table) :
    (table.fields.filter Field.isId).map Field.site = idSites t := by
  have hids : table.fields.filter Field.isId =
      table.fields.filter ((fun s => s.declaration.carriesId) ∘ Field.site) :=
    List.filter_congr fun f hf => isId_of_mem_fields h hf
  rw [hids, ← List.filter_map, map_site_fields h, idSites]

end FieldTable

namespace Catalog

open FieldTable

variable {t : RecordType}

/-- **A type has at most one id, and its table knows it.**  If several of the leaves that are kept
carry an id tag, there is no table, and the error names them all.  The id field of a table is one of
its fields, and it describes a leaf exactly when this is the only kept one with an id tag. -/
theorem introspect_id (c : Catalog) (t : RecordType) :
    (1 < (idSites t).length → ∃ e, c.introspect t = .error e ∧ severalIds t ∈ e.leaves) ∧
      ∀ table, c.introspect t = .ok table →
        (∀ f, table.idField? = some f → f ∈ table.fields) ∧
          ∀ s, table.idField?.map Field.site = some s ↔ idSites t = [s] := by
  constructor
  · intro hseveral
    have hmem := severalIds_mem_failures c.registry c.tools hseveral
    cases hresult : c.introspect t with
    | ok table =>
      have hnone := (exists_build_iff c.registry c.tools t).1 ⟨table, hresult⟩
      rw [hnone] at hmem
      cases hmem
    | error e => exact ⟨e, rfl, leaves_of_build hresult ▸ hmem⟩
  · intro table htable
    have hfield := idField?_of_build htable
    refine ⟨fun f hf => ?_, fun s => ?_⟩
    · rw [hfield, only?_eq_some_iff] at hf
      have hmem : f ∈ table.fields.filter Field.isId := hf ▸ List.mem_singleton_self f
      exact (List.mem_filter.1 hmem).1
    · rw [hfield, ← map_site_ids htable, Option.map_eq_some_iff, List.map_eq_singleton_iff]
      simp only [only?_eq_some_iff]

/-- A room whose guest has an id of its own. -/
def room : RecordType :=
  ⟨Reference.info "Room" [], [
    Reference.plain "number" (.uint .w16) [(Tool.idName, "")],
    Reference.nested "guest" .named ⟨Reference.info "Guest" [], [
      Reference.plain "passport" .text [(Tool.idName, ",number")]]⟩]⟩

/-- A room and its guest cannot both have an id, even under one name; a parcel has one. -/
theorem introspect_id_room :
    1 < (idSites room).length ∧ (∃ e, new.introspect room = .error e ∧ severalIds room ∈ e.leaves) ∧
      ∃ table, new.introspect parcel = .ok table ∧
        table.idField?.map Field.location = some "id" := by
  have hseveral : 1 < (idSites room).length := by decide
  refine ⟨hseveral, (introspect_id new room).1 hseveral, _, rfl, ?_⟩
  obtain ⟨s, hs, hlocation⟩ : ∃ s, idSites parcel = [s] ∧ s.location = "id" := ⟨_, rfl, rfl⟩
  have hid := (((introspect_id new parcel).2 _ rfl).2 s).2 hs
  obtain ⟨f, hf, rfl⟩ := Option.map_eq_some_iff.1 hid
  rw [hf, ← hlocation]
  rfl

/-- A type with two flat attributes of one name, both with an id tag. -/
def twins : RecordType :=
  ⟨Reference.info "Twins" [], [
    Reference.plain "a" .text [(Tool.idName, ",key")],
    Reference.plain "b" .text [(Tool.idName, ",key")]]⟩

/-- Two exported leaves carry an id tag, and still there is a table, whose id field is the first of
them: the second one is left out, since its name belongs to the first. -/
theorem introspect_id_twins :
    (((twins.leaves.filter Leaf.isExported).map Leaf.site).filter
        fun s => s.declaration.carriesId).map Site.location = ["a", "b"] ∧
      ∃ table, new.introspect twins = .ok table ∧
        table.idField?.map Field.location = some "a" :=
  ⟨rfl, _, rfl, rfl⟩

end Catalog

end FieldRules
