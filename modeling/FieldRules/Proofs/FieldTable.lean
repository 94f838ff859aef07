import FieldRules.Catalog
import FieldRules.Proofs.Dict
import FieldRules.Proofs.FieldTable.Walk
import FieldRules.Proofs.Record.Regular
import Mathlib.Data.List.Pairwise

/-!
# What is in a table

An external name belongs to one field of a table, which the index finds, and what the tools of a name
do to the fields is listed in the order of the walk.  Every field of a regular type is at a place of
its own, where there is a slot that it describes.

## Main definitions

* `RecordType.HasSlot` — whether a type has a slot for a field.
* `Tool.IsOnly` — a tool that has its name for itself.
* `FieldTable.boundAs` — what the tools of a name do to a field.

## Main statements

* `FieldTable.hasSlot_of_mem_fields`, `FieldTable.pairwise_fields` — where the fields of a
  regular type are.
* `FieldTable.access_isSome_eq` — a field has a mask exactly when it has an access tag.
* `FieldTable.find?_named` — the index finds the field that a name belongs to.
* `FieldTable.bucket_eq` — what the tools of a name do to the fields.
-/

namespace FieldRules

/-- A type has a slot for a field: it is at the place of the field, can be read and set, and has the
field's zero. -/
def RecordType.HasSlot (t : RecordType) (f : Field) : Prop :=
  ∃ slot, t.locate? f.location = some slot ∧ slot.isReadable = true ∧ slot.isSettable = true ∧
    f.zero = slot.type.kind.zero slot.type.isOptional

/-- What stands at the place of a field for which the type of the record has a slot. -/
theorem Record.exists_cell {r : Record} {f : Field} (hf : r.type.HasSlot f) :
    ∃ cell, r.locate? f.location = some cell ∧ cell.slot.isReadable = true ∧
      cell.slot.isSettable = true ∧
      f.zero = cell.slot.type.kind.zero cell.slot.type.isOptional := by
  obtain ⟨slot, hslot, hreadable, hsettable, hzero⟩ := hf
  rw [Shape.locate?, type, Shape.at?_map, Option.map_eq_some_iff] at hslot
  obtain ⟨cell, hcell, rfl⟩ := hslot
  exact ⟨cell, hcell, hreadable, hsettable, hzero⟩

/-! ## Tools with a name of their own -/

/-- A tool looks at the tag of its name, and no other tool has the name. -/
def Tool.IsOnly (tool : Tool) (tools : Dict Tool) : Prop :=
  List.filter (fun e => e.2.name == tool.name) tools = [(tool.name, tool)]

namespace Tool

variable {tool : Tool} {tools : Dict Tool}

theorem isOnly_access : access.IsOnly Catalog.new.tools := rfl

theorem isOnly_validate : validate.IsOnly Catalog.new.tools := rfl

theorem IsOnly.mem (h : tool.IsOnly tools) : (tool.name, tool) ∈ tools :=
  (List.mem_filter.1 (h ▸ List.mem_singleton_self _)).1

theorem IsOnly.eq_of_name_eq (h : tool.IsOnly tools) {e : String × Tool} (he : e ∈ tools)
    (hname : e.2.name = tool.name) : e = (tool.name, tool) := by
  have hmem : e ∈ List.filter (fun e => e.2.name == tool.name) tools :=
    List.mem_filter.2 ⟨he, by simpa using hname⟩
  rw [h] at hmem
  exact List.mem_singleton.1 hmem

theorem IsOnly.mem_toolNames {c : Catalog} (h : tool.IsOnly c.tools) : tool.name ∈ c.toolNames :=
  List.mem_map.2 ⟨_, h.mem, rfl⟩

end Tool

namespace FieldTable

variable {registry : Registry} {tools : Dict Tool} {t : RecordType} {table : FieldTable}

/-! ## Fields -/

theorem fieldOf_tags (registry : Registry) (s : Site) :
    (fieldOf registry s).1.tags = s.declaration.tags := by
  rw [fieldOf_eq]
  rfl

/-- A regular type has a slot for each of its fields. -/
theorem hasSlot_of_mem_fields (hregular : t.isRegular = true)
    (h : build registry tools t = .ok table) {f : Field} (hf : f ∈ table.fields) :
    t.HasSlot f := by
  rw [fields_of_build h] at hf
  obtain ⟨s, hs, rfl⟩ := List.mem_map.1 hf
  obtain ⟨rel, name, slot, hplace, hfound, -, hdescribes⟩ :=
    resolves_of_mem_sites hregular isWay_empty ((fieldSites_sublist t).subset hs)
  rw [Declaration.describes, Bool.and_eq_true, Bool.and_eq_true, Bool.and_eq_true] at hdescribes
  obtain ⟨⟨⟨hreadable, hsettable⟩, hkind⟩, hoptional⟩ := hdescribes
  refine ⟨slot, ?_, hreadable, hsettable, ?_⟩
  · rw [Shape.locate?, location_fieldOf, hplace]
    exact hfound t.info
  · have hzero : (fieldOf registry s).1.zero = s.declaration.kind.zero s.declaration.isOptional := by
      rw [fieldOf_eq]
      rfl
    rw [hzero, of_decide_eq_true hkind, eq_of_beq hoptional]

/-- Different fields of a regular type are at different places. -/
theorem pairwise_fields (hregular : t.isRegular = true) (h : build registry tools t = .ok table) :
    table.fields.Pairwise fun f g => splitLocation f.location ≠ splitLocation g.location := by
  rw [fields_of_build h, List.pairwise_map]
  refine ((pairwise_sites hregular isWay_empty).sublist (fieldSites_sublist t)).imp ?_
  intro s s' hapart
  rw [fieldOf_eq registry s, fieldOf_eq registry s']
  exact hapart

/-- Two fields of a regular type that are at one place are the same. -/
theorem eq_of_splitLocation_eq (hregular : t.isRegular = true)
    (h : build registry tools t = .ok table) {f g : Field} (hf : f ∈ table.fields)
    (hg : g ∈ table.fields) (hplace : splitLocation f.location = splitLocation g.location) :
    f = g := by
  have hsymm : Std.Symm fun f g : Field => splitLocation f.location ≠ splitLocation g.location :=
    ⟨fun _ _ hapart heq => hapart heq.symm⟩
  by_contra hne
  exact (pairwise_fields hregular h).forall hf hg hne hplace

/-! ## Access tags -/

/-- A field without an access tag has no mask. -/
theorem access_fieldOf_of_none {s : Site} (h : s.declaration.tag? Tool.accessName = none) :
    (fieldOf registry s).1.access = none := by
  simp only [fieldOf, h]
  rfl

/-- Where nothing is wrong with a field's tags, it has a mask exactly when it has an access tag. -/
theorem access_isSome_eq (h : build registry tools t = .ok table) {f : Field}
    (hf : f ∈ table.fields) :
    f.access.isSome = (f.tag? Tool.accessName).isSome := by
  rw [fields_of_build h] at hf
  obtain ⟨s, hs, rfl⟩ := List.mem_map.1 hf
  have herrors := errorsAt_of_build h hs
  have htag : (fieldOf registry s).1.tag? Tool.accessName = s.declaration.tag? Tool.accessName := by
    rw [Field.tag?, fieldOf_tags]
    rfl
  rw [htag]
  cases hfound : s.declaration.tag? Tool.accessName with
  | none =>
    rw [access_fieldOf_of_none hfound]
    rfl
  | some tag =>
    simp only [errorsAt, entryOf, List.append_eq_nil_iff] at herrors
    simp only [fieldOf, hfound] at herrors ⊢
    cases hparse : registry.principals.parseTag tag with
    | ok spec => rfl
    | error e =>
      rw [hparse] at herrors
      cases herrors.1

/-! ## The index of external names -/

/-- The field that a name belongs to is a field of the table, and it carries the name. -/
theorem mem_of_field? {name : String} {f : Field} (h : table.field? name = some f) :
    f ∈ table.fields ∧ f.externalName = name := by
  rw [field?, Option.bind_eq_some_iff] at h
  obtain ⟨i, hi, hf⟩ := h
  obtain ⟨e, he, hname⟩ := table.isIndex name i hi
  rw [fields, List.getElem?_map, he] at hf
  cases hf
  exact ⟨List.mem_map_of_mem (List.mem_of_getElem? he), hname⟩

/-- The index finds the field that a name belongs to. -/
theorem find?_named (table : FieldTable) (name : String) :
    table.named.find? name = table.field? name := by
  have hsound : ∀ g, table.named.find? name = some g → table.field? name = some g := by
    intro g hg
    rw [named, Dict.find?_ofList] at hg
    obtain ⟨e, he, rfl⟩ := Option.map_eq_some_iff.1 hg
    have hkey := List.find?_some he
    have hmem := List.mem_reverse.1 (List.mem_of_find?_eq_some he)
    obtain ⟨f, -, hf⟩ := List.mem_filterMap.1 hmem
    obtain ⟨g, hfound, rfl⟩ := Option.map_eq_some_iff.1 hf
    have hname : f.externalName = name := beq_iff_eq.1 hkey
    rw [← hfound, hname]
  cases hnamed : table.named.find? name with
  | some g => exact (hsound g hnamed).symm
  | none =>
    cases howner : table.field? name with
    | none => rfl
    | some g =>
      obtain ⟨hg, hname⟩ := mem_of_field? howner
      rw [named, Dict.find?_ofList, Option.map_eq_none_iff, List.find?_eq_none] at hnamed
      have hentry : (name, g) ∈ table.fields.filterMap fun f =>
          (table.field? f.externalName).map fun g => (f.externalName, g) :=
        List.mem_filterMap.2 ⟨g, hg, by simp [hname, howner]⟩
      exact absurd (by simp) (hnamed (name, g) (List.mem_reverse.2 hentry))

theorem sorted_named (table : FieldTable) : Dict.Sorted table.named := Dict.Sorted.ofList _

/-! ## What the tools do -/

/-- What the tools of a name do to a field, in the order of their keys. -/
def boundAs (registry : Registry) (f : Field) (name : String) (tools : Dict Tool) : List Applier :=
  List.filterMap (fun e : String × Tool =>
    if e.2.name = name then (e.2.applier registry f (f.tag? e.1)).toOption.join else none) tools

/-- What a field is bound to under a name is what the tools of that name do to it. -/
theorem filter_bindingsOf {field : Field} {d : Declaration} (htags : field.tags = d.tags)
    (name : String) (tools : Dict Tool) :
    (bindingsOf registry field d tools).1.filter (fun b => b.1 == name) =
      (boundAs registry field name tools).map fun applier => (name, applier) := by
  induction tools with
  | nil => rfl
  | cons e rest ih =>
    obtain ⟨key, tool⟩ := e
    have htag : field.tag? key = d.tag? key := by rw [Field.tag?, Declaration.tag?, htags]
    rw [boundAs] at ih ⊢
    rw [bindingsOf]
    by_cases hname : tool.name = name
    · cases happlier : tool.applier registry field (d.tag? key) with
      | error e => simpa [hname, htag, happlier, Except.toOption] using ih
      | ok applier? =>
        cases applier? with
        | none => simpa [hname, htag, happlier, Except.toOption] using ih
        | some applier => simpa [hname, htag, happlier, Except.toOption] using ih
    · cases tool.applier registry field (d.tag? key) with
      | error e => simpa [hname] using ih
      | ok applier? => cases applier? <;> simpa [hname] using ih

/-- Where nothing is wrong with what a field's tags say to the tools, each tool has an answer. -/
theorem exists_answer_of_bindingsOf {field : Field} {d : Declaration} (htags : field.tags = d.tags)
    {tools : Dict Tool} (h : (bindingsOf registry field d tools).2 = []) {e : String × Tool}
    (he : e ∈ tools) : ∃ applier?, e.2.applier registry field (field.tag? e.1) = .ok applier? := by
  induction tools with
  | nil => cases he
  | cons e' rest ih =>
    obtain ⟨key, tool⟩ := e'
    have htag : field.tag? key = d.tag? key := by rw [Field.tag?, Declaration.tag?, htags]
    rw [bindingsOf] at h
    cases happlier : tool.applier registry field (d.tag? key) with
    | error e => simp [happlier] at h
    | ok applier? =>
      have hrest : (bindingsOf registry field d rest).2 = [] := by
        cases applier? <;> simpa [happlier] using h
      rcases List.mem_cons.1 he with rfl | he
      · exact ⟨applier?, by rw [htag, happlier]⟩
      · exact ih hrest he

/-- Every tool has an answer for every field of a table that is built. -/
theorem exists_answer (h : build registry tools t = .ok table) {f : Field} (hf : f ∈ table.fields)
    {e : String × Tool} (he : e ∈ tools) :
    ∃ applier?, e.2.applier registry f (f.tag? e.1) = .ok applier? := by
  rw [fields_of_build h] at hf
  obtain ⟨s, hs, rfl⟩ := List.mem_map.1 hf
  have herrors := errorsAt_of_build h hs
  simp only [errorsAt, entryOf, List.append_eq_nil_iff] at herrors
  exact exists_answer_of_bindingsOf (fieldOf_tags registry s) herrors.2 he

/-- What the tools of a name do to the fields, in the order of the walk. -/
theorem bucket_eq (h : build registry tools t = .ok table) (name : String) :
    table.bucket name = table.fields.flatMap fun f =>
      (boundAs registry f name tools).map fun applier => (f, applier) := by
  rw [bucket, entries_of_build h, fields_of_build h, List.flatMap_map, List.flatMap_map]
  refine congrArg (List.flatMap · (fieldSites t)) (funext fun s => ?_)
  simp only [entryAt, entryOf, filter_bindingsOf (fieldOf_tags registry s), List.map_map]
  rfl

/-- What is done to a field under a name is done by a tool of that name, as its tag says. -/
theorem exists_tool_of_mem_bucket (h : build registry tools t = .ok table) {name : String}
    {f : Field} {applier : Applier} (hmem : (f, applier) ∈ table.bucket name) :
    f ∈ table.fields ∧ ∃ e ∈ tools, e.2.name = name ∧
      e.2.applier registry f (f.tag? e.1) = .ok (some applier) := by
  rw [bucket_eq h, List.mem_flatMap] at hmem
  obtain ⟨g, hg, hmem⟩ := hmem
  obtain ⟨bound, hbound, heq⟩ := List.mem_map.1 hmem
  obtain ⟨rfl, rfl⟩ := Prod.mk.inj heq
  obtain ⟨e, he, hsome⟩ := List.mem_filterMap.1 hbound
  refine ⟨hg, e, he, ?_⟩
  split at hsome
  · next hname =>
    cases happlier : e.2.applier registry g (g.tag? e.1) with
    | error e => simp [happlier, Except.toOption] at hsome
    | ok applier? =>
      refine ⟨hname, congrArg Except.ok ?_⟩
      simpa [happlier, Except.toOption] using hsome
  · cases hsome

/-- A tool with a name of its own does what the tag of that name says. -/
theorem boundAs_of_isOnly {tool : Tool} (htool : tool.IsOnly tools) (registry : Registry)
    (f : Field) :
    boundAs registry f tool.name tools =
      (tool.applier registry f (f.tag? tool.name)).toOption.join.toList := by
  have hbound : boundAs registry f tool.name tools =
      (List.filter (fun e => e.2.name == tool.name) tools).filterMap fun e =>
        (e.2.applier registry f (f.tag? e.1)).toOption.join := by
    simp [boundAs, List.filterMap_filter]
  rw [hbound, htool]
  cases happlier : (tool.applier registry f (f.tag? tool.name)).toOption.join <;> simp [happlier]

/-- What the access tool does to the fields, in the order of the walk. -/
theorem bucket_access (htool : Tool.access.IsOnly tools) (h : build registry tools t = .ok table) :
    table.bucket Tool.accessName = table.fields.filterMap fun f => f.access.map fun mask =>
      (f, Tool.accessApplier registry.principals mask f.isProvided) := by
  have hbound : ∀ f ∈ table.fields, boundAs registry f Tool.accessName tools =
      (f.access.map fun mask =>
        Tool.accessApplier registry.principals mask f.isProvided).toList := by
    intro f hf
    have htag := access_isSome_eq h hf
    refine (boundAs_of_isOnly htool registry f).trans ?_
    have hname : Tool.access.name = Tool.accessName := rfl
    rw [hname]
    cases hmask : f.access with
    | none =>
      simp [Tool.access, hmask, Except.toOption]
    | some mask =>
      rw [hmask, Option.isSome_some] at htag
      obtain ⟨tag, htag⟩ := Option.isSome_iff_exists.1 htag.symm
      simp [Tool.access, hmask, htag, Except.toOption]
  rw [bucket_eq h, List.filterMap_eq_flatMap_toList]
  refine List.flatMap_congr fun f hf => ?_
  rw [hbound f hf]
  cases f.access <;> rfl

end FieldTable

end FieldRules
