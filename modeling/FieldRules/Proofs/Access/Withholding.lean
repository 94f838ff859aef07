import FieldRules.Proofs.Access.ReadPaths
import FieldRules.Proofs.FieldType

/-!
# What a writing pass takes away

Before a record of a caller is stored, the fields that the caller may not write are reset: those that
have an access tag, are not provided, and whose mask does not allow the kind of access.  For a
regular type the pass cannot fail.  It resets these fields, and everything else in the record stays
as it was.

## Main definitions

* `Field.isWithheld` — whether a field is taken from what a principal supplies.
* `Record.reset`, `Record.resetAll` — putting zeros at the places of fields.

## Main statements

* `Record.at?_resetAll` — what stands where after fields have been reset.
* `Catalog.Pass.foldl_access_write` — a writing pass resets the withheld fields.
* `Catalog.removeNonWritable_resets` — what is reset reads as zero, and nothing else has changed.
-/

namespace FieldRules

/-- Whether a field is taken from what a principal supplies: it has an access tag, is not provided,
and its mask does not allow the kind of access. -/
def Field.isWithheld (principals : Principals) (principal : Principal) (kind : AccessKind)
    (f : Field) : Bool :=
  f.access.any fun mask => !f.isProvided && !principals.allows mask principal kind

/-! ## Resetting -/

namespace Record

/-- Puts the zero of its slot at the place of a location. -/
def reset (r : Record) (location : String) : Record :=
  match r.locate? location with
  | some cell => r.put cell.slot.zeroCell (splitLocation location).2 (splitLocation location).1
  | none => r

/-- Resets the places of some fields, one after the other. -/
def resetAll (r : Record) (fields : List Field) : Record :=
  fields.foldl (fun r f => r.reset f.location) r

variable {r : Record}

theorem at?_reset (r : Record) (location : String) (way : List String) (name : String) :
    (r.reset location).at? way name =
      if splitLocation location = (way, name) then
        (r.at? way name).map fun cell => cell.slot.zeroCell
      else r.at? way name := by
  rw [reset]
  cases hcell : r.locate? location with
  | none =>
    by_cases hplace : splitLocation location = (way, name)
    · rw [Shape.locate?, hplace] at hcell
      rw [if_pos hplace, hcell]
      rfl
    · rw [if_neg hplace]
  | some cell =>
    by_cases hplace : splitLocation location = (way, name)
    · rw [Shape.locate?, hplace] at hcell
      rw [if_pos hplace, hplace, hcell]
      exact Shape.at?_put_self hcell
    · rw [if_neg hplace]
      exact Shape.at?_put_of_ne fun heq => hplace heq.symm

@[simp] theorem type_reset (r : Record) (location : String) : (r.reset location).type = r.type := by
  rw [reset]
  cases hcell : r.locate? location with
  | none => rfl
  | some cell => exact Shape.map_put hcell rfl

/-- After fields have been reset, there are zeros at their places, and elsewhere what was there
before. -/
theorem at?_resetAll (r : Record) (fields : List Field) (way : List String) (name : String) :
    (r.resetAll fields).at? way name =
      if ∃ f ∈ fields, splitLocation f.location = (way, name) then
        (r.at? way name).map fun cell => cell.slot.zeroCell
      else r.at? way name := by
  induction fields generalizing r with
  | nil => simp [resetAll]
  | cons f rest ih =>
    have hstep : r.resetAll (f :: rest) = (r.reset f.location).resetAll rest := rfl
    rw [hstep, ih, at?_reset]
    by_cases hhead : splitLocation f.location = (way, name)
    · -- a zero that is reset again is the same zero
      have htwice : ∀ cell? : Option Cell,
          (cell?.map fun cell => cell.slot.zeroCell).map (fun cell => cell.slot.zeroCell) =
            cell?.map fun cell => cell.slot.zeroCell := by
        rintro (_ | cell) <;> rfl
      simp [hhead, htwice]
    · simp [hhead]

@[simp] theorem type_resetAll (r : Record) (fields : List Field) :
    (r.resetAll fields).type = r.type := by
  induction fields generalizing r with
  | nil => rfl
  | cons f rest ih => exact (ih (r.reset f.location)).trans (type_reset r f.location)

/-- A field whose zero is that of its slot is reset by storing its zero. -/
theorem store_zero {f : Field} {cell : Cell} (hcell : r.locate? f.location = some cell)
    (hset : cell.slot.isSettable = true)
    (hzero : f.zero = cell.slot.type.kind.zero cell.slot.type.isOptional) :
    f.store r f.zero = .ok (r.reset f.location) := by
  rw [Field.store_of_ok hcell hset (hzero ▸ cell.slot.type.ofValue_zero), reset, hcell]
  rfl

end Record

namespace Catalog

/-! ## A writing pass -/

section Pass

variable {principals : Principals} {f : Field} {p : Pass}

/-- What one step of a writing pass does: it resets the field if it is withheld, and cannot fail. -/
theorem Pass.step_access_write {binding : Field × Applier}
    (hbinding : accessBinding? principals f = some binding)
    (hkind : p.context.access.isWrite = true) (hf : p.record.type.HasSlot f) :
    p.step binding =
      ⟨if f.isWithheld principals p.context.principal p.context.access then
          p.record.reset f.location
        else p.record, p.context, p.errors⟩ := by
  obtain ⟨mask, hmask, rfl⟩ := Option.map_eq_some_iff.1 hbinding
  obtain ⟨cell, hcell, -, hset, hzero⟩ := Record.exists_cell hf
  simp only [Pass.step, Tool.accessApplier, hkind, if_true, Field.isWithheld, hmask,
    Record.store_zero hcell hset hzero, Option.any_some]
  cases f.isProvided <;>
    cases principals.allows mask p.context.principal p.context.access <;> rfl

/-- A writing pass resets the withheld fields one after the other. -/
theorem Pass.foldl_access_write (principals : Principals) (fields : List Field)
    (hkind : p.context.access.isWrite = true)
    (hfields : ∀ f ∈ fields, p.record.type.HasSlot f) :
    (fields.filterMap (accessBinding? principals)).foldl Pass.step p =
      ⟨p.record.resetAll (fields.filter
        (Field.isWithheld principals p.context.principal p.context.access)),
        p.context, p.errors⟩ := by
  induction fields generalizing p with
  | nil => rfl
  | cons f rest ih =>
    have hf := hfields f List.mem_cons_self
    have hrest := fun g hg => hfields g (List.mem_cons_of_mem f hg)
    cases hbinding : accessBinding? principals f with
    | none =>
      have hmask : f.access = none := Option.map_eq_none_iff.1 hbinding
      rw [List.filterMap_cons_none hbinding, ih hkind hrest,
        List.filter_cons_of_neg (by simp [Field.isWithheld, hmask])]
    | some binding =>
      rw [List.filterMap_cons_some hbinding, List.foldl_cons,
        Pass.step_access_write hbinding hkind hf]
      split
      · next hwithheld =>
        rw [ih (p := ⟨p.record.reset f.location, p.context, p.errors⟩) hkind (by simpa using hrest),
          List.filter_cons_of_pos hwithheld]
        rfl
      · next hallowed =>
        rw [ih hkind hrest, List.filter_cons_of_neg hallowed]

end Pass

section Withholding

variable {c : Catalog} {r : Record} {table : FieldTable} {principal : Principal} {kind : AccessKind}

/-- What a writing pass leaves behind. -/
theorem removeNonWritable_eq (principal : Principal) (htool : Tool.access.IsOnly c.tools)
    (hregular : r.type.isRegular = true) (htable : c.introspect r.type = .ok table)
    (hkind : kind.isWrite = true) :
    (c.removeNonWritable r principal kind).result = .ok () ∧
      (c.removeNonWritable r principal kind).record =
        r.resetAll (table.fields.filter
          (Field.isWithheld c.registry.principals principal kind)) := by
  have hrun := Pass.foldl_access_write c.registry.principals
    (p := ⟨r, (Context.empty.setPrincipal principal).setAccess kind, .empty⟩) table.fields hkind
    fun f hf => FieldTable.hasSlot_of_mem_fields hregular htable hf
  have hname : Tool.accessName ∈ c.toolNames := htool.mem_toolNames
  rw [removeNonWritable, applyTools_singleton hname htable, FieldTable.bucket_access htool htable]
  constructor
  · exact congrArg (fun p => (Pass.outcome p).result) hrun
  · exact congrArg (fun p => (Pass.outcome p).record) hrun

/-- **A writing pass over a record of a regular type succeeds; then every withheld field reads as its
zero**, every other field reads as before, and whatever stands at the place of no withheld field is
still there. -/
theorem removeNonWritable_resets (htool : Tool.access.IsOnly c.tools)
    (hregular : r.type.isRegular = true) (htable : c.introspect r.type = .ok table)
    (hkind : kind.isWrite = true) :
    let out := c.removeNonWritable r principal kind
    let isWithheld := Field.isWithheld c.registry.principals principal kind
    out.result = .ok () ∧ out.record.type = r.type ∧
      (∀ f ∈ table.fields, isWithheld f = true → f.read? out.record = some f.zero) ∧
      (∀ f ∈ table.fields, isWithheld f = false → f.read? out.record = f.read? r) ∧
      ∀ way name,
        (∀ f ∈ table.fields, isWithheld f = true → splitLocation f.location ≠ (way, name)) →
        out.record.at? way name = r.at? way name := by
  intro out isWithheld
  obtain ⟨hresult, hrecord⟩ := removeNonWritable_eq principal htool hregular htable hkind
  have hslots : ∀ f ∈ table.fields, r.type.HasSlot f := fun f hf =>
    FieldTable.hasSlot_of_mem_fields hregular htable hf
  have hkept : ∀ way name,
      (∀ f ∈ table.fields, isWithheld f = true → splitLocation f.location ≠ (way, name)) →
      out.record.at? way name = r.at? way name := by
    intro way name hnone
    rw [hrecord, Record.at?_resetAll, if_neg]
    rintro ⟨f, hf, hplace⟩
    rw [List.mem_filter] at hf
    exact hnone f hf.1 hf.2 hplace
  refine ⟨hresult, by rw [hrecord, Record.type_resetAll], ?_, ?_, hkept⟩
  · intro f hf hwithheld
    obtain ⟨cell, hcell, hreadable, -, hzero⟩ := Record.exists_cell (hslots f hf)
    have hreset : out.record.locate? f.location = some cell.slot.zeroCell := by
      rw [hrecord, Shape.locate?, Record.at?_resetAll,
        if_pos ⟨f, List.mem_filter.2 ⟨hf, hwithheld⟩, rfl⟩]
      exact congrArg (Option.map fun cell => cell.slot.zeroCell) hcell
    rw [Field.read?, Record.readPath?_eq hreset, Cell.read?, hzero, ← FieldType.toValue_zero]
    exact if_pos hreadable
  · intro f hf hallowed
    obtain ⟨cell, hcell, -⟩ := Record.exists_cell (hslots f hf)
    have hsame : out.record.locate? f.location = some cell := by
      rw [Shape.locate?, hkept, ← Shape.locate?, hcell]
      intro g hg hwithheld hplace
      obtain rfl := FieldTable.eq_of_splitLocation_eq hregular htable hg hf hplace
      exact Bool.noConfusion (hwithheld.symm.trans hallowed)
    rw [Field.read?, Field.read?, Record.readPath?_eq hsame, Record.readPath?_eq hcell]

end Withholding

/-- A member with a name that the user may set, a rank and a stamp inside that the user may only
read, a badge that is always supplied, and a note that is not exported. -/
def member : RecordType :=
  ⟨Reference.info "Member" [], [
    Reference.plain "name" .text [(Tool.accessName, "rw")],
    Reference.plain "rank" (.int .w64) [(Tool.accessName, "r-")],
    Reference.plain "badge" .text [(Tool.accessName, "--,p")],
    Reference.nested "stamp" .embedded ⟨Reference.info "Stamp" [],
      [Reference.plain "author" .text [(Tool.accessName, "r-")]]⟩,
    Reference.unexported "note" .text]⟩

/-- A member as a caller supplies it. -/
def supplied : Record :=
  let text (s : String) : Cell := ⟨⟨.text, true, true⟩, s⟩
  (((member.zero.put (text "ada") "name" []).put (text "b7") "badge" []).put
    (text "eve") "author" ["stamp"]).put (text "draft") "note" []

/-- What a caller supplies as the author of the stamp is taken away, and the badge and the note
stay. -/
theorem removeNonWritable_supplied :
    supplied.type.isRegular = true ∧ ∃ table, withUser.introspect supplied.type = .ok table ∧
      (table.fields.filter (Field.isWithheld withUser.registry.principals (.named "user")
        .creating)).map Field.location = ["rank", "stamp+author"] ∧
      let out := withUser.removeNonWritable supplied (.named "user") .creating
      out.result = .ok () ∧ out.record.readPath? "stamp+author" = some (.text "") ∧
        out.record.locate? "badge" = supplied.locate? "badge" ∧
        out.record.locate? "note" = supplied.locate? "note" := by
  have hstays : ∀ table : FieldTable,
      (table.fields.filter (Field.isWithheld withUser.registry.principals (.named "user")
        .creating)).map Field.location = ["rank", "stamp+author"] →
      ∀ name, name = "badge" ∨ name = "note" → ∀ f ∈ table.fields,
        f.isWithheld withUser.registry.principals (.named "user") .creating = true →
        splitLocation f.location ≠ ([], name) := by
    intro table hlocations name hname f hf hwithheld
    have hlocation := List.mem_map_of_mem (f := Field.location)
      (List.mem_filter.2 ⟨hf, hwithheld⟩)
    rw [hlocations, List.mem_pair] at hlocation
    rcases hlocation with h | h <;> rcases hname with rfl | rfl <;> rw [h] <;> decide
  refine ⟨rfl, _, rfl, rfl, ?_⟩
  obtain ⟨hresult, -, hreset, -, hkept⟩ :=
    @removeNonWritable_resets withUser supplied _ (.named "user") .creating Tool.isOnly_access rfl
      rfl rfl
  exact ⟨hresult, hreset _ (.tail _ (.tail _ (.tail _ (.head _)))) rfl,
    hkept [] "badge" (hstays _ rfl "badge" (.inl rfl)),
    hkept [] "note" (hstays _ rfl "note" (.inr rfl))⟩

-- The types that are declared by the types of their attributes are regular.
example : Reference.types.all RecordType.isRegular = true := by decide

end Catalog

end FieldRules
