import FieldRules.Proofs.Access.Withholding
import FieldRules.Proofs.FieldTable.Ownership
import FieldRules.Proofs.Record.Chains

/-!
# Fields are where their locations say

The walk writes a location for each leaf that it keeps, and a pass splits it again when a record is
at hand.  For regular types it comes out as the names above the leaf and its own, and no two fields
have the same; so in every record of the type a field reads and writes the attribute that it was made
for.  A value may fail to convert, but the attribute is always found, and checks and access rules
never miss it.

## Main definitions

* `Field.IsAt` — a field reads and writes the attribute of a leaf in a record.

## Main statements

* `Field.isAt_of_location` — the location of a leaf leads to it in every record of its type.
* `FieldTable.fields_resolve` — the fields of a table resolve.
-/

namespace FieldRules

/-- A field of a record reads and writes the attribute of a leaf.  A value that converts to its type
replaces what was there, and another one is refused since it does not convert. -/
structure Field.IsAt (f : Field) (l : Leaf) (r : Record) (cell : Cell) : Prop where
  stands : Attribute.StandsIn l.above (.plain l.declaration cell) r.attributes
  reads : f.read? r = some (cell.slot.type.toValue cell.content)
  stores : ∀ v content, cell.slot.type.ofValue v = .ok content → ∃ r', f.store r v = .ok r' ∧
    r'.type = r.type ∧
    Attribute.StandsIn l.above (.plain l.declaration ⟨cell.slot, content⟩) r'.attributes
  refuses : ∀ v misfit, cell.slot.type.ofValue v = .error misfit →
    r.writePath f.location v = .error (.coerce misfit)

/-- The location of a leaf in the walk is made of the names above it and its own. -/
theorem Leaf.location_site (l : Leaf) :
    l.site.location = wayAlong (l.above.map fun s => (s.1.name, s.2)) ++ l.declaration.name := by
  rw [site, wayOf_eq]

theorem Leaf.map_fst_steps (l : Leaf) :
    (l.above.map fun s => (s.1.name, s.2)).map Prod.fst = namesAlong l.above := by
  rw [List.map_map]
  rfl

namespace Record

variable {r : Record} {l : Leaf} {cell : Cell}

/-- The location of a leaf leads to what stands there in a regular record. -/
theorem locate?_site (hr : r.type.isRegular = true)
    (h : Attribute.StandsIn l.above (.plain l.declaration cell) r.attributes) :
    r.locate? l.site.location = some cell := by
  rw [l.location_site]
  exact locate?_of_standsIn hr h l.map_fst_steps

/-- One cell stands below a chain in a regular record. -/
theorem exists_standsIn_of_locate?_site (hr : r.type.isRegular = true) (hl : l ∈ r.type.leaves)
    (h : r.locate? l.site.location = some cell) :
    Attribute.StandsIn l.above (.plain l.declaration cell) r.attributes := by
  obtain ⟨cell', hstands⟩ := exists_standsIn_of_mem_leaves hl
  rw [locate?_site hr hstands, Option.some.injEq] at h
  exact h ▸ hstands

end Record

namespace Field

variable {f : Field} {l : Leaf} {r : Record}

/-- **The location of a leaf leads to it in every record of its type.** -/
theorem isAt_of_location (hr : r.type.isRegular = true) (hl : l ∈ r.type.leaves)
    (hf : f.location = l.site.location) :
    ∃ cell, r.locate? f.location = some cell ∧ f.IsAt l r cell := by
  obtain ⟨cell, hstands⟩ := Record.exists_standsIn_of_mem_leaves hl
  have hcell : r.locate? f.location = some cell := by rw [hf, Record.locate?_site hr hstands]
  have hset := (Record.slot_of_locate? hr hcell).2
  refine ⟨cell, hcell, hstands, Record.readPath?_of_locate? hr hcell, fun v content hv => ?_,
    fun v misfit hv => ?_⟩
  · have htype : Record.type (r.put ⟨cell.slot, content⟩ (splitLocation f.location).2
        (splitLocation f.location).1) = r.type := Shape.map_put hcell rfl
    refine ⟨_, store_of_ok hcell hset hv, htype, ?_⟩
    refine Record.exists_standsIn_of_locate?_site (htype ▸ hr) (htype ▸ hl) ?_
    rw [← hf]
    exact Shape.at?_put_self hcell
  · rw [Record.writePath_eq hcell hset, Record.rewritten, hv]
    rfl

/-- A field that can be read passes a check or fails it. -/
theorem result_checkApplier {v : Value} (hread : f.read? r = some v) (c : Constraint)
    (ctx : Context) :
    (Tool.checkApplier c f r ctx).result =
      if c.test v then .ok () else .error (.validation f.location ctx.scope c.details) := by
  simp only [Tool.checkApplier, hread]
  split <;> rfl

/-- Enforcing access on a field that can be read and reset does not fail. -/
theorem result_accessApplier {v : Value} {r' : Record} (hread : f.read? r = some v)
    (hreset : f.store r f.zero = .ok r') (principals : Principals) (mask : AccessMask)
    (isProvided : Bool) (ctx : Context) :
    (Tool.accessApplier principals mask isProvided f r ctx).result = .ok () := by
  simp only [Tool.accessApplier, hread, hreset]
  split
  · split <;> rfl
  · split <;> rfl

end Field

namespace FieldTable

variable {registry : Registry} {tools : Dict Tool} {t : RecordType} {table : FieldTable}

/-- A field of a table describes an exported leaf. -/
theorem exists_leaf_of_mem_fields (h : build registry tools t = .ok table) {f : Field}
    (hf : f ∈ table.fields) : ∃ l ∈ t.leaves, l.isExported = true ∧ f.site = l.site := by
  have hsite : f.site ∈ fieldSites t := map_site_fields h ▸ List.mem_map_of_mem hf
  obtain ⟨l, hl, hsite⟩ := List.mem_map.1 ((Site.kept_sublist _).subset hsite)
  obtain ⟨hleaf, hexported⟩ := List.mem_filter.1 hl
  exact ⟨l, hleaf, hexported, hsite.symm⟩

/-- **The fields of a regular type resolve.**  No two of them have the same names on the way.  Each
describes an exported leaf, and its location is split into the names above the leaf and its own.  In
every record of the type it reads and writes the attribute of the leaf; so a check is passed or
failed, and enforcing access does not fail. -/
theorem fields_resolve (hregular : t.isRegular = true) (h : build registry tools t = .ok table) :
    (table.fields.Pairwise fun f g => splitLocation f.location ≠ splitLocation g.location) ∧
      ∀ f ∈ table.fields, ∃ l ∈ t.leaves, l.isExported = true ∧ f.site = l.site ∧
        splitLocation f.location = (namesAlong l.above, l.declaration.name) ∧
        ∀ r : Record, r.type = t →
          (∃ cell, f.IsAt l r cell) ∧
          (∀ c ctx, (Tool.checkApplier c f r ctx).result = .ok () ∨
            (Tool.checkApplier c f r ctx).result =
              .error (.validation f.location ctx.scope c.details)) ∧
          ∀ principals mask isProvided ctx,
            (Tool.accessApplier principals mask isProvided f r ctx).result = .ok () := by
  refine ⟨pairwise_fields hregular h, fun f hf => ?_⟩
  obtain ⟨l, hl, hexported, hsite⟩ := exists_leaf_of_mem_fields h hf
  have hlocation : f.location = l.site.location := congrArg Site.location hsite
  refine ⟨l, hl, hexported, hsite, ?_, ?_⟩
  · obtain ⟨above, slot, habove, hstands⟩ := (Attribute.mem_allLeaves_iff t.attributes).1 hl
    rw [List.nil_append] at habove
    rw [hlocation, l.location_site]
    refine (habove ▸ hstands).splitLocation (f := id) ?_ l.map_fst_steps
    rwa [Attribute.mapAll_id]
  · rintro r rfl
    obtain ⟨cell, hcell, hat⟩ := Field.isAt_of_location hregular hl hlocation
    obtain ⟨cell', hcell', -, -, hzero⟩ := Record.exists_cell (hasSlot_of_mem_fields hregular h hf)
    obtain rfl := Option.some.inj (hcell.symm.trans hcell')
    obtain ⟨reset, hreset, -⟩ := hat.stores f.zero _ (hzero ▸ cell.slot.type.ofValue_zero)
    refine ⟨⟨cell, hat⟩, fun c ctx => ?_, Field.result_accessApplier hat.reads hreset⟩
    rw [Field.result_checkApplier hat.reads]
    split
    · exact .inl rfl
    · exact .inr rfl

/-- A parcel that is stamped. -/
def stamped : Record :=
  let text (s : String) : Cell := ⟨⟨.text, true, true⟩, s⟩
  (parcel.zero.put (text "acme") "firm" ["sender"]).put (text "eve") "by" ["stamp"]

/-- The last field of a parcel is inside its stamp, and reads who stamped it. -/
theorem fields_resolve_parcel :
    parcel.isRegular = true ∧ stamped.type = parcel ∧
      ∃ table, build Catalog.new.registry Catalog.new.tools parcel = .ok table ∧
        table.fields.map (fun f => splitLocation f.location) = [([], "id"), (["sender"], "firm"),
          (["sender"], "zip"), ([], "title"), (["stamp"], "by")] ∧
        ∃ f ∈ table.fields, ∃ l ∈ parcel.leaves, namesAlong l.above = ["stamp"] ∧
          l.declaration.name = "by" ∧ (∃ cell, f.IsAt l stamped cell) ∧
          f.read? stamped = some (.text "eve") := by
  refine ⟨rfl, rfl, _, rfl, rfl, _, .tail _ (.tail _ (.tail _ (.tail _ (.head _)))), ?_⟩
  obtain ⟨l, hl, -, -, hplace, hrecord⟩ :=
    (@fields_resolve Catalog.new.registry Catalog.new.tools parcel _ rfl rfl).2 _
      (.tail _ (.tail _ (.tail _ (.tail _ (.head _)))))
  obtain ⟨hway, hname⟩ := Prod.mk.inj hplace
  exact ⟨l, hl, hway.symm, hname.symm, (hrecord stamped rfl).1, rfl⟩

end FieldTable

end FieldRules
