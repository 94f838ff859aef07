import FieldRules.Proofs.FieldTable
import FieldRules.Proofs.Record.Lens

/-!
# Copying provided fields

The current version of a record is rebuilt from an older one by taking over its provided fields that
are not zero.  Between two records of one regular type this cannot fail: what a field reads as can
be stored in the same field of the other record, where it reads the same.  Every other attribute
stays, and what has been taken over once is not changed by taking it over again.

## Main definitions

* `Cell.taking` — a cell after it has taken what another one reads as.
* `Record.takeFrom`, `Record.takeAll` — taking what stands at the places of fields.

## Main statements

* `Record.at?_takeAll`, `Record.takeAll_takeAll` — what stands where after fields have been taken,
  and that nothing changes when they are taken again.
* `Catalog.copyField_eq` — copying a field.
* `Catalog.copyProvided_merges` — copying the provided fields.
-/

namespace FieldRules

/-! ## Cells -/

namespace Cell

/-- A cell after it has taken what another one reads as, unless that is zero. -/
def taking (target source : Cell) : Cell :=
  match source.read? with
  | none => target
  | some v => if v.isZero then target else (target.assign v).1

theorem assign_of_ok {c : Cell} {v : Value} {content : c.slot.type.Content}
    (hset : c.slot.isSettable = true) (hv : c.slot.type.ofValue v = .ok content) :
    c.assign v = (⟨c.slot, content⟩, .ok ()) := by
  rw [assign, if_pos hset, hv]

/-- A cell that is assigned stores what its type makes of the value, or it stays as it is. -/
theorem assign_cases (c : Cell) (v : Value) :
    (∃ content, c.slot.isSettable = true ∧ c.slot.type.ofValue v = .ok content ∧
      (c.assign v).1 = ⟨c.slot, content⟩) ∨ (c.assign v).1 = c := by
  by_cases hset : c.slot.isSettable = true
  · cases hv : c.slot.type.ofValue v with
    | ok content => exact .inl ⟨content, hset, rfl, by rw [assign_of_ok hset hv]⟩
    | error misfit => exact .inr (by rw [assign, if_pos hset, hv])
  · exact .inr (by rw [assign, if_neg hset])

/-- Assigning a value twice is assigning it once. -/
theorem assign_assign (c : Cell) (v : Value) : ((c.assign v).1.assign v).1 = (c.assign v).1 := by
  rcases assign_cases c v with ⟨content, hset, hv, hassign⟩ | hsame
  · rw [hassign, assign_of_ok (c := ⟨c.slot, content⟩) hset hv]
  · rw [hsame, hsame]

theorem taking_of_read? {source : Cell} {v : Value} (hv : source.read? = some v) (target : Cell) :
    target.taking source = if v.isZero = true then target else (target.assign v).1 := by
  rw [taking, hv]

theorem taking_of_read?_none {source : Cell} (hnone : source.read? = none) (target : Cell) :
    target.taking source = target := by
  rw [taking, hnone]

theorem slot_taking (target source : Cell) : (target.taking source).slot = target.slot := by
  cases hread : source.read? with
  | none => rw [taking_of_read?_none hread]
  | some v =>
    rw [taking_of_read? hread]
    split
    · rfl
    · rcases assign_cases target v with ⟨content, -, -, hassign⟩ | hsame
      · rw [hassign]
      · rw [hsame]

/-- Taking twice is taking once. -/
theorem taking_taking (target source : Cell) :
    (target.taking source).taking source = target.taking source := by
  cases hread : source.read? with
  | none => rw [taking_of_read?_none hread]
  | some v =>
    rw [taking_of_read? hread, taking_of_read? hread]
    split
    · rfl
    · exact assign_assign target v

/-- Between two cells of one slot, without numbers of single precision, what is read is stored and
reads the same. -/
theorem exists_content_of_read? {target source : Cell} (hslot : target.slot = source.slot)
    (hsingle : source.slot.type.hasSingle = false) {v : Value} (hv : source.read? = some v) :
    ∃ content, target.slot.type.ofValue v = .ok content ∧
      target.slot.type.toValue content = v := by
  obtain ⟨slot, content⟩ := source
  cases hslot
  rw [read?] at hv
  split at hv
  · cases hv
    exact FieldType.exists_ofValue_toValue hsingle content
  · cases hv

/-- What a cell reads as after it has taken what another cell of the slot reads as. -/
theorem read?_taking {target source : Cell} (hslot : target.slot = source.slot)
    (hreadable : target.slot.isReadable = true) (hsettable : target.slot.isSettable = true)
    (hsingle : source.slot.type.hasSingle = false) :
    ∃ v w, source.read? = some v ∧ target.read? = some w ∧
      (target.taking source).read? = some (if v.isZero = true then w else v) := by
  have hsource : source.slot.isReadable = true := hslot ▸ hreadable
  obtain ⟨v, hv⟩ : ∃ v, source.read? = some v := ⟨_, if_pos hsource⟩
  obtain ⟨w, hw⟩ : ∃ w, target.read? = some w := ⟨_, if_pos hreadable⟩
  refine ⟨v, w, hv, hw, ?_⟩
  rw [taking_of_read? hv]
  split
  · exact hw
  · obtain ⟨content, hcontent, hback⟩ := exists_content_of_read? hslot hsingle hv
    rw [assign_of_ok hsettable hcontent, read?, if_pos hreadable, hback]

end Cell

/-! ## Records -/

namespace Record

/-- Takes what stands at the place of a location in another record. -/
def takeFrom (target source : Record) (location : String) : Record :=
  match target.locate? location, source.locate? location with
  | some old, some new =>
    target.put (old.taking new) (splitLocation location).2 (splitLocation location).1
  | _, _ => target

/-- Takes what stands at the places of some fields, one after the other. -/
def takeAll (target source : Record) (fields : List Field) : Record :=
  fields.foldl (fun r f => r.takeFrom source f.location) target

/-- What stands at a place after it has been taken. -/
def taken? (target source : Record) (way : List String) (name : String) : Option Cell :=
  match target.at? way name, source.at? way name with
  | some old, some new => some (old.taking new)
  | old?, _ => old?

variable {target source : Record}

/-- The slot at a place of the type is that of the cell at this place of the record. -/
theorem locate?_type (r : Record) (location : String) :
    r.type.locate? location = (r.locate? location).map Cell.slot := by
  rw [Shape.locate?, type, Shape.at?_map]
  rfl

theorem at?_takeFrom (target source : Record) (location : String) (way : List String)
    (name : String) :
    (target.takeFrom source location).at? way name =
      if splitLocation location = (way, name) then target.taken? source way name
      else target.at? way name := by
  rw [takeFrom, taken?, Shape.locate?, Shape.locate?]
  by_cases hplace : splitLocation location = (way, name)
  · rw [if_pos hplace, hplace]
    cases hold : target.at? way name with
    | none => exact hold
    | some old =>
      cases source.at? way name with
      | none => exact hold
      | some new => exact Shape.at?_put_self hold
  · rw [if_neg hplace]
    split
    · exact Shape.at?_put_of_ne fun heq => hplace heq.symm
    · rfl

/-- What is taken twice is taken once. -/
theorem taken?_of_at?_eq {r : Record} {way : List String} {name : String}
    (h : r.at? way name = target.taken? source way name) :
    r.taken? source way name = target.taken? source way name := by
  rw [taken?, h, taken?]
  cases target.at? way name with
  | none => rfl
  | some old =>
    cases source.at? way name with
    | none => rfl
    | some new => exact congrArg some (Cell.taking_taking old new)

theorem at?_takeAll (target source : Record) (fields : List Field) (way : List String)
    (name : String) :
    (target.takeAll source fields).at? way name =
      if ∃ f ∈ fields, splitLocation f.location = (way, name) then target.taken? source way name
      else target.at? way name := by
  induction fields generalizing target with
  | nil => simp [takeAll]
  | cons f rest ih =>
    have hstep : target.takeAll source (f :: rest) =
        (target.takeFrom source f.location).takeAll source rest := rfl
    have hhead := at?_takeFrom target source f.location way name
    rw [hstep, ih]
    by_cases hplace : splitLocation f.location = (way, name)
    · rw [if_pos hplace] at hhead
      rw [taken?_of_at?_eq hhead, hhead]
      simp [hplace]
    · rw [if_neg hplace] at hhead
      have hsame : (target.takeFrom source f.location).taken? source way name =
          target.taken? source way name := by rw [taken?, taken?, hhead]
      rw [hsame, hhead]
      simp [hplace]

@[simp] theorem type_takeFrom (target source : Record) (location : String) :
    (target.takeFrom source location).type = target.type := by
  rw [takeFrom]
  split
  · next hold _ => exact Shape.map_put hold (Cell.slot_taking _ _)
  · rfl

@[simp] theorem type_takeAll (target source : Record) (fields : List Field) :
    (target.takeAll source fields).type = target.type := by
  induction fields generalizing target with
  | nil => rfl
  | cons f rest ih => exact (ih (target.takeFrom source f.location)).trans (type_takeFrom _ _ _)

/-- A record in which the place of a location has been taken is not changed by taking it. -/
theorem takeFrom_of_locate?_eq {r : Record} {location : String}
    (h : r.locate? location =
      target.taken? source (splitLocation location).1 (splitLocation location).2) :
    r.takeFrom source location = r := by
  rw [takeFrom]
  split
  · next old new hold hnew =>
    have hagain := taken?_of_at?_eq h
    rw [← h, taken?, show r.at? _ _ = some old from hold, show source.at? _ _ = some new from hnew,
      hold] at hagain
    exact (congrArg (fun c => r.put c _ _) (Option.some.inj hagain)).trans (Shape.put_at? hold)
  · rfl

/-- Taking the same fields again changes nothing. -/
theorem takeAll_takeAll (target source : Record) (fields : List Field) :
    (target.takeAll source fields).takeAll source fields = target.takeAll source fields := by
  have hall : ∀ f ∈ fields,
      (target.takeAll source fields).takeFrom source f.location = target.takeAll source fields := by
    intro f hf
    have htaken : (target.takeAll source fields).locate? f.location = target.taken? source
        (splitLocation f.location).1 (splitLocation f.location).2 := by
      rw [Shape.locate?, at?_takeAll, if_pos ⟨f, hf, rfl⟩]
    exact takeFrom_of_locate?_eq htaken
  -- each step of the second round finds the record as the first round left it
  have hround : ∀ rest : List Field, (∀ f ∈ rest, f ∈ fields) →
      (target.takeAll source fields).takeAll source rest = target.takeAll source fields := by
    intro rest hrest
    induction rest with
    | nil => rfl
    | cons f rest ih =>
      change ((target.takeAll source fields).takeFrom source f.location).takeAll source rest = _
      rw [hall f (hrest f List.mem_cons_self), ih fun g hg => hrest g (List.mem_cons_of_mem f hg)]
  exact hround fields fun f hf => hf

end Record

namespace Catalog

section Copying

variable {c : Catalog} {source target : Record} {table : FieldTable} {f : Field}

/-- The slot of a field in two records of one type. -/
theorem exists_cells (htype : source.type = target.type) (hf : target.type.HasSlot f) :
    ∃ old new, target.locate? f.location = some old ∧ source.locate? f.location = some new ∧
      target.type.locate? f.location = some old.slot ∧ old.slot = new.slot ∧
      old.slot.isReadable = true ∧ old.slot.isSettable = true := by
  obtain ⟨old, hold, hreadable, hsettable, -⟩ := Record.exists_cell hf
  obtain ⟨new, hnew, -⟩ := Record.exists_cell (htype ▸ hf : source.type.HasSlot f)
  have htarget : target.type.locate? f.location = some old.slot := by
    rw [Record.locate?_type, hold, Option.map_some]
  have hsource : source.type.locate? f.location = some new.slot := by
    rw [Record.locate?_type, hnew, Option.map_some]
  rw [htype, htarget] at hsource
  exact ⟨old, new, hold, hnew, htarget, Option.some.inj hsource, hreadable, hsettable⟩

/-- Copying a field between records of one type takes it over and cannot fail. -/
theorem copyField_eq (htype : source.type = target.type) (hf : target.type.HasSlot f)
    (hsingle : ∀ slot, target.type.locate? f.location = some slot → slot.type.hasSingle = false)
    (errors : ErrorBatch) :
    copyField source (target, errors) f = (target.takeFrom source f.location, errors) := by
  obtain ⟨old, new, hold, hnew, hfound, hslot, hreadable, hsettable⟩ := exists_cells htype hf
  obtain ⟨v, hv⟩ : ∃ v, new.read? = some v := ⟨_, if_pos (hslot ▸ hreadable)⟩
  have hread : f.read? source = some v := (Record.readPath?_eq hnew).trans hv
  simp only [copyField, hread, Record.takeFrom, hold, hnew, Cell.taking_of_read? hv]
  split
  · rw [Shape.put_at? hold]
  · obtain ⟨content, hcontent, -⟩ :=
      Cell.exists_content_of_read? hslot (hslot ▸ hsingle old.slot hfound) hv
    rw [Field.store_of_ok hold hsettable hcontent, Cell.assign_of_ok hsettable hcontent]

/-- Fields are copied one after the other. -/
theorem foldl_copyField (htype : source.type = target.type) {fields : List Field}
    (hfields : ∀ f ∈ fields, target.type.HasSlot f ∧
      ∀ slot, target.type.locate? f.location = some slot → slot.type.hasSingle = false)
    (errors : ErrorBatch) :
    fields.foldl (copyField source) (target, errors) = (target.takeAll source fields, errors) := by
  induction fields generalizing target with
  | nil => rfl
  | cons f rest ih =>
    obtain ⟨hf, hsingle⟩ := hfields f List.mem_cons_self
    have hrest := fun g hg => hfields g (List.mem_cons_of_mem f hg)
    rw [List.foldl_cons, copyField_eq htype hf hsingle errors, ih (by simpa using htype)
      (by simpa using hrest)]
    rfl

/-- What copying the provided fields comes to between records of one regular type. -/
theorem copyProvided_eq (htype : source.type = target.type)
    (hregular : target.type.isRegular = true) (htable : c.introspect target.type = .ok table)
    (hsingle : ∀ f ∈ table.fields, f.isProvided = true → ∀ slot,
      target.type.locate? f.location = some slot → slot.type.hasSingle = false) :
    c.copyProvided source target =
      (target.takeAll source (table.fields.filter Field.isProvided), .ok ()) := by
  have hkey : source.info.key = target.info.key := congrArg (fun t : RecordType => t.info.key) htype
  have hprovided : ∀ f ∈ table.fields.filter Field.isProvided, target.type.HasSlot f ∧
      ∀ slot, target.type.locate? f.location = some slot → slot.type.hasSingle = false := by
    intro f hf
    obtain ⟨hmem, hf⟩ := List.mem_filter.1 hf
    exact ⟨FieldTable.hasSlot_of_mem_fields hregular htable hmem, hsingle f hmem hf⟩
  rw [copyProvided, if_neg (not_not.2 hkey), htype, htable]
  simp only [foldl_copyField htype hprovided, ErrorBatch.result]
  rfl

/-- **Copying provided fields between records of different types fails and changes nothing.  Between
records of one regular type it succeeds**: afterwards each provided field reads as in the record it
comes from, where that is not zero, and else as before, whatever stands at the place of no provided
field is still there, and copying once more changes nothing. -/
theorem copyProvided_merges (c : Catalog) (source target : Record) :
    (source.info.key ≠ target.info.key →
      ∃ message, c.copyProvided source target = (target, .error (.configuration message))) ∧
    ∀ table, source.type = target.type → target.type.isRegular = true →
      c.introspect target.type = .ok table →
      (∀ f ∈ table.fields, f.isProvided = true → ∀ slot,
        target.type.locate? f.location = some slot → slot.type.hasSingle = false) →
      ∃ merged, c.copyProvided source target = (merged, .ok ()) ∧ merged.type = target.type ∧
        (∀ f ∈ table.fields, f.isProvided = true → ∃ v w, f.read? source = some v ∧
          f.read? target = some w ∧ f.read? merged = some (if v.isZero = true then w else v)) ∧
        (∀ way name, (∀ f ∈ table.fields, f.isProvided = true →
          splitLocation f.location ≠ (way, name)) → merged.at? way name = target.at? way name) ∧
        c.copyProvided source merged = (merged, .ok ()) := by
  refine ⟨fun hkeys => ⟨_, by rw [copyProvided, if_pos hkeys]⟩, ?_⟩
  intro table htype hregular htable hsingle
  have hmerged : (target.takeAll source (table.fields.filter Field.isProvided)).type =
      target.type := Record.type_takeAll _ _ _
  refine ⟨_, copyProvided_eq htype hregular htable hsingle, hmerged, ?_, ?_, ?_⟩
  · intro f hf hprovided
    obtain ⟨old, new, hold, hnew, hfound, hslot, hreadable, hsettable⟩ :=
      exists_cells htype (FieldTable.hasSlot_of_mem_fields hregular htable hf)
    obtain ⟨v, w, hv, hw, htaken⟩ :=
      Cell.read?_taking hslot hreadable hsettable (hslot ▸ hsingle f hf hprovided old.slot hfound)
    have hplace : (target.takeAll source (table.fields.filter Field.isProvided)).locate?
        f.location = some (old.taking new) := by
      rw [Shape.locate?, Record.at?_takeAll, if_pos ⟨f, List.mem_filter.2 ⟨hf, hprovided⟩, rfl⟩,
        Record.taken?, ← Shape.locate?, ← Shape.locate?, hold, hnew]
    exact ⟨v, w, (Record.readPath?_eq hnew).trans hv, (Record.readPath?_eq hold).trans hw,
      (Record.readPath?_eq hplace).trans htaken⟩
  · intro way name hnone
    rw [Record.at?_takeAll, if_neg]
    rintro ⟨f, hf, hplace⟩
    obtain ⟨hmem, hprovided⟩ := List.mem_filter.1 hf
    exact hnone f hmem hprovided hplace
  · have hagain := copyProvided_eq (htype.trans hmerged.symm) (hmerged ▸ hregular)
      (hmerged.symm ▸ htable) (hmerged ▸ hsingle)
    rw [hagain, Record.takeAll_takeAll]

end Copying

/-- A shipment with a number, a label that anyone sets, a journey with the places it has passed and
the weights it had there, where any were taken, and a note that is not exported. -/
def shipment : RecordType :=
  ⟨Reference.info "Shipment" [], [
    Reference.plain "number" (.uint .w32) [(Tool.accessName, "--,p")],
    Reference.plain "label" .text [],
    Reference.nested "journey" .embedded ⟨Reference.info "Journey" [], [
      Reference.plain "places" (.list .text) [(Tool.accessName, "--,p")],
      Reference.plain "weights" (.dict (.optional .double)) [(Tool.accessName, "--,p")]]⟩,
    Reference.unexported "note" .text]⟩

/-- A shipment as it is stored, without a number. -/
def storedShipment : Record :=
  ((shipment.zero.put ⟨⟨.list .text, true, true⟩, ["oslo", "rome"]⟩ "places" ["journey"]).put
    ⟨⟨.dict (.optional .double), true, true⟩, [("oslo", none)]⟩ "weights" ["journey"]).put
    ⟨⟨.text, true, true⟩, "stored"⟩ "note" []

/-- A shipment as it comes in, with a number and a label. -/
def incomingShipment : Record :=
  ((shipment.zero.put ⟨⟨.uint .w32, true, true⟩, ⟨7, by decide⟩⟩ "number" []).put
    ⟨⟨.text, true, true⟩, "hello"⟩ "label" []).put
    ⟨⟨.list .text, true, true⟩, ["bonn"]⟩ "places" ["journey"]

/-- Where the provided fields of a shipment are. -/
def copiedOfShipment : List String := ["number", "journey+places", "journey+weights"]

/-- The places and the weights come from the shipment that is stored; the number, which it lacks,
and the note are those of the incoming one.  Nothing comes from a record of another type. -/
theorem copyProvided_merges_shipment :
    (∃ message,
      new.copyProvided (RecordType.zero ⟨Reference.info "Crate" [], []⟩) incomingShipment =
        (incomingShipment, .error (.configuration message))) ∧
    ∃ table, storedShipment.type = incomingShipment.type ∧ incomingShipment.type.isRegular = true ∧
      new.introspect incomingShipment.type = .ok table ∧
      (table.fields.filter Field.isProvided).map Field.location = copiedOfShipment ∧
      ∃ merged, new.copyProvided storedShipment incomingShipment = (merged, .ok ()) ∧
        merged.readPath? "number" = some (.uint 7) ∧
        merged.readPath? "journey+places" = some (.list [.text "oslo", .text "rome"]) ∧
        merged.locate? "note" = incomingShipment.locate? "note" ∧
        new.copyProvided storedShipment merged = (merged, .ok ()) := by
  have hother : (RecordType.zero ⟨Reference.info "Crate" [], []⟩).info.key ≠
      incomingShipment.info.key := by decide
  obtain ⟨table, htable, hlocations⟩ : ∃ table, new.introspect incomingShipment.type = .ok table ∧
      (table.fields.filter Field.isProvided).map Field.location = copiedOfShipment := ⟨_, rfl, rfl⟩
  have hprovided : ∀ f ∈ table.fields, f.isProvided = true →
      f.location ∈ copiedOfShipment := fun f hf hprovided =>
    hlocations ▸ List.mem_map_of_mem (List.mem_filter.2 ⟨hf, hprovided⟩)
  have hsingle : ∀ location ∈ copiedOfShipment, ∀ slot,
      incomingShipment.type.locate? location = some slot → slot.type.hasSingle = false := by
    intro location hlocation slot hslot
    simp only [copiedOfShipment, List.mem_cons, List.not_mem_nil, or_false] at hlocation
    rcases hlocation with rfl | rfl | rfl <;> cases hslot <;> rfl
  obtain ⟨merged, hmerged, -, hfields, hkept, hagain⟩ :=
    (copyProvided_merges new storedShipment incomingShipment).2 table rfl rfl htable
      fun f hf hf' => hsingle _ (hprovided f hf hf')
  have hread : ∀ location ∈ copiedOfShipment, ∃ v w,
      storedShipment.readPath? location = some v ∧ incomingShipment.readPath? location = some w ∧
        merged.readPath? location = some (if v.isZero = true then w else v) := by
    intro location hlocation
    obtain ⟨f, hf, rfl⟩ := List.mem_map.1 (hlocations.symm ▸ hlocation)
    exact hfields f (List.mem_filter.1 hf).1 (List.mem_filter.1 hf).2
  refine ⟨(copyProvided_merges new _ incomingShipment).1 hother, table, rfl, rfl, htable,
    hlocations, merged, hmerged, ?_, ?_, hkept [] "note" fun f hf hf' hplace => ?_, hagain⟩
  · obtain ⟨_, _, hv, hw, hnumber⟩ := hread "number" (by decide)
    cases hv
    cases hw
    exact hnumber
  · obtain ⟨_, _, hv, -, hplaces⟩ := hread "journey+places" (by decide)
    cases hv
    exact hplaces
  · have hnote : ∀ location ∈ copiedOfShipment,
        splitLocation location ≠ ([], "note") := by decide
    exact hnote _ (hprovided f hf hf') hplace

end Catalog

end FieldRules
