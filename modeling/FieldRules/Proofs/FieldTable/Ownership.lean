import FieldRules.Proofs.FieldTable
import FieldRules.Reference

/-!
# The fields of a table and their names

The fields of a table are leaves of the record type: in the order of the leaves, those that are
exported, but for a flat one whose name an earlier flat one carries.  A name that some field carries
belongs to the first flat field that carries it, or to the first nested one when no flat one does.

## Main definitions

* `Field.site` — what a field tells of the attribute that it describes.

## Main statements

* `FieldTable.fields_owners_buckets` — the fields, the owners of their names, and what the tools do.
-/

namespace FieldRules

/-- What a field tells of the attribute that it describes. -/
def Field.site (f : Field) : Site :=
  ⟨⟨f.name, f.kind, f.isOptional, true, f.tags⟩, f.location, f.isNested⟩

namespace FieldTable

variable {registry : Registry} {tools : Dict Tool} {t : RecordType} {table : FieldTable}

/-- A field tells all of an exported attribute. -/
theorem site_fieldOf (registry : Registry) {s : Site} (hs : s.declaration.isExported = true) :
    (fieldOf registry s).1.site = s := by
  obtain ⟨⟨name, kind, isOptional, isExported, tags⟩, location, isNested⟩ := s
  cases hs
  rw [fieldOf_eq]
  rfl

theorem isExported_of_mem_fieldSites {s : Site} (hs : s ∈ fieldSites t) :
    s.declaration.isExported = true := by
  obtain ⟨l, hl, rfl⟩ := List.mem_map.1 ((Site.kept_sublist _).subset hs)
  have hexported := (List.mem_filter.1 hl).2
  rw [Leaf.isExported, Bool.and_eq_true] at hexported
  exact hexported.2

theorem map_site_fields (h : build registry tools t = .ok table) :
    table.fields.map Field.site = fieldSites t := by
  rw [fields_of_build h, List.map_map]
  refine (List.map_congr_left fun s hs => ?_).trans (List.map_id _)
  exact site_fieldOf registry (isExported_of_mem_fieldSites hs)

/-- A field is called outside as its tags and its name say. -/
theorem externalName_site (h : build registry tools t = .ok table) {f : Field}
    (hf : f ∈ table.fields) : f.externalName = f.site.declaration.externalName := by
  rw [fields_of_build h] at hf
  obtain ⟨s, hs, rfl⟩ := List.mem_map.1 hf
  rw [site_fieldOf registry (isExported_of_mem_fieldSites hs)]
  exact externalName_entryAt registry tools s

/-- A name that some field carries has an owner. -/
theorem owner?_isSome {fields : List Field} {f : Field} (hf : f ∈ fields) :
    (owner? fields f.externalName).isSome = true := by
  rw [owner?, Option.isSome_or, Bool.or_eq_true, List.find?_isSome, List.find?_isSome]
  cases hnested : f.isNested with
  | false => exact .inl ⟨f, hf, by simp [hnested]⟩
  | true => exact .inr ⟨f, hf, by simp [hnested]⟩

/-- **The fields of a table and their names.**  The fields are the exported leaves in their order,
without a flat one whose name an earlier flat one carries.  A name belongs to the first flat field
that carries it, else to the first nested one; so whenever a field carries a name, a field of the
table that carries it is found.  What the tools of a name do is listed in the order of the fields. -/
theorem fields_owners_buckets (h : build registry tools t = .ok table) :
    table.fields.map Field.site =
        Site.kept ((t.leaves.filter Leaf.isExported).map Leaf.site) ∧
      (∀ f ∈ table.fields, f.externalName = f.site.declaration.externalName) ∧
      (∀ name, table.field? name =
        (table.fields.find? fun f => f.externalName == name && !f.isNested).or
          (table.fields.find? fun f => f.externalName == name && f.isNested)) ∧
      (∀ f ∈ table.fields, ∃ owner ∈ table.fields,
        table.field? f.externalName = some owner ∧ owner.externalName = f.externalName) ∧
      ∀ tool, table.bucket tool = table.fields.flatMap fun f =>
        (boundAs registry f tool tools).map fun applier => (f, applier) := by
  refine ⟨map_site_fields h, fun f hf => externalName_site h hf,
    field?_of_build h, fun f hf => ?_, bucket_eq h⟩
  obtain ⟨owner, howner⟩ := Option.isSome_iff_exists.1 (owner?_isSome hf)
  rw [← field?_of_build h] at howner
  obtain ⟨hmem, hname⟩ := mem_of_field? howner
  exact ⟨owner, hmem, howner, hname⟩

/-- A parcel whose name is carried also by its sender, before it, and by its label, after it. -/
def parcel : RecordType :=
  ⟨Reference.info "Parcel" [], [
    Reference.plain "id" .text [(Tool.idName, ",key")],
    Reference.nested "sender" .named ⟨Reference.info "Sender" [], [
      Reference.plain "firm" .text [("json", "name")],
      Reference.plain "zip" .text []]⟩,
    Reference.plain "title" .text [("json", "name,omitempty")],
    Reference.plain "label" .text [("json", "name")],
    Reference.nested "stamp" .embedded ⟨Reference.info "Stamp" [], [
      Reference.plain "by" .text []]⟩,
    Reference.unexported "weight" (.int .w64)]⟩

/-- The name of a parcel belongs to its title, its sender's is kept without the name, and its label
is left out. -/
theorem fields_owners_buckets_parcel :
    ∃ table, build Catalog.new.registry Catalog.new.tools parcel = .ok table ∧
      table.fields.map Field.location = ["id", "sender.firm", "sender.zip", "title", "stamp+by"] ∧
      (∃ f ∈ table.fields, f.externalName = "name" ∧ f.isNested = true) ∧
      table.field? "name" =
        (table.fields.find? fun f => f.externalName == "name" && !f.isNested).or
          (table.fields.find? fun f => f.externalName == "name" && f.isNested) ∧
      (table.field? "name").map Field.location = some "title" := by
  refine ⟨_, rfl, rfl, ⟨_, .tail _ (.head _), rfl, rfl⟩, ?_, rfl⟩
  exact (@fields_owners_buckets Catalog.new.registry Catalog.new.tools parcel _ rfl).2.2.1 "name"

end FieldTable

end FieldRules
