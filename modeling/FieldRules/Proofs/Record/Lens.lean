import FieldRules.Proofs.Except
import FieldRules.Proofs.FieldType.RoundTrip
import FieldRules.Proofs.Record.Regular
import FieldRules.Reference

/-!
# The laws of locations

Reading and writing at locations obey the laws of a lens.  What was written is read, as the type of
the attribute stores it; every other attribute reads as before; and writing what was read changes
nothing.  A write that fails changes nothing either: this is shown of a record that is written in
place, where each step on the way keeps whatever the steps below it leave behind.

## Main definitions

* `Record.assign` — writing at a location in place.
* `settle` — what a change that can fail leaves behind, and its answer.

## Main statements

* `Record.assign_eq` — writing in place does all of the change or nothing.
* `Record.writePath_eq_ok_iff` — when a write succeeds, and what it leaves behind.
* `Record.writePath_lens` — the laws of reading and writing.
-/

namespace FieldRules

variable {α β ε : Type}

/-! ## Writing in place -/

/-- What a change that can fail leaves of what was there, and how it is answered. -/
def settle (old : α) : Except ε α → α × Except ε Unit
  | .ok new => (new, .ok ())
  | .error e => (old, .error e)

/-- Settling a whole is settling the part of it that changes. -/
theorem settle_map {f : α → β} {old : α} (change : Except ε α) :
    settle (f old) (change.map f) = (f (settle old change).1, (settle old change).2) := by
  cases change <;> rfl

/-- Assigns a cell, converting the value to its type. -/
def Cell.assign (c : Cell) (v : Value) : Cell × Except SlotError Unit :=
  if c.slot.isSettable then
    match c.slot.type.ofValue v with
    | .ok content => (⟨c.slot, content⟩, .ok ())
    | .error misfit => (c, .error (.coerce misfit))
  else (c, .error .unsettable)

namespace Attribute

/-- Assigns an attribute, if it is plain. -/
def assign (v : Value) : Attribute Cell → Attribute Cell × Except SlotError Unit
  | .plain d c => (.plain d (c.assign v).1, (c.assign v).2)
  | .nested d n info attributes => (.nested d n info attributes, .error .unsettable)

/-- Changes the record of an attribute in place, if it is nested. -/
def within (f : Record → Record × Except SlotError Unit) :
    Attribute Cell → Attribute Cell × Except SlotError Unit
  | .plain d c => (.plain d c, .error .missing)
  | .nested d n info attributes =>
    let out := f ⟨info, attributes⟩
    (.nested d n out.1.info out.1.attributes, out.2)

/-- Changes the first attribute of a name in place. -/
def onFirst (name : String) (f : Attribute Cell → Attribute Cell × Except SlotError Unit) :
    List (Attribute Cell) → List (Attribute Cell) × Except SlotError Unit
  | [] => ([], .error .missing)
  | a :: rest =>
    if a.name = name then ((f a).1 :: rest, (f a).2)
    else (a :: (onFirst name f rest).1, (onFirst name f rest).2)

/-- Assigning the attribute of a name in place writes it or leaves all as it was. -/
theorem onFirst_assign (name : String) (v : Value) (attributes : List (Attribute Cell)) :
    onFirst name (assign v) attributes = settle attributes (Record.setIn name v attributes) := by
  induction attributes with
  | nil => rfl
  | cons a rest ih =>
    by_cases ha : a.name = name
    · rw [onFirst, if_pos ha]
      cases a with
      | plain d c =>
        simp only [Record.setIn, if_pos ha, assign, Cell.assign]
        cases c.slot.isSettable
        · rfl
        · cases c.slot.type.ofValue v <;> rfl
      | nested d n info inner =>
        simp only [Record.setIn, if_pos ha]
        rfl
    · rw [onFirst, if_neg ha, ih, Record.setIn_cons_of_ne ha, settle_map]

/-- Changing the record of a name in place does all of the change or nothing, when the change of
that record does. -/
theorem onFirst_within {f : Record → Record × Except SlotError Unit}
    {g : Record → Except SlotError Record} (hf : ∀ inner, f inner = settle inner (g inner))
    (name : String) (attributes : List (Attribute Cell)) :
    onFirst name (within f) attributes =
      settle attributes (Record.updateIn name g attributes) := by
  induction attributes with
  | nil => rfl
  | cons a rest ih =>
    by_cases ha : a.name = name
    · rw [onFirst, if_pos ha]
      cases a with
      | plain d c =>
        simp only [Record.updateIn, if_pos ha]
        rfl
      | nested d n info inner =>
        simp only [Record.updateIn, if_pos ha, within, hf]
        cases g ⟨info, inner⟩ <;> rfl
    · rw [onFirst, if_neg ha, ih, Record.updateIn_cons_of_ne ha, settle_map]

end Attribute

namespace Record

/-- Assigns, in place, an attribute of the record at the end of a way of names.  Whatever has
become of an inner record is kept, also when the answer is a failure. -/
def assignAlong (name : String) (v : Value) :
    List String → Record → Record × Except SlotError Unit
  | [], r =>
    let out := Attribute.onFirst name (Attribute.assign v) r.attributes
    (⟨r.info, out.1⟩, out.2)
  | step :: way, r =>
    let out := Attribute.onFirst step (Attribute.within (assignAlong name v way)) r.attributes
    (⟨r.info, out.1⟩, out.2)

/-- Writes the attribute of a location in place. -/
def assign (r : Record) (location : String) (v : Value) : Record × Except SlotError Unit :=
  assignAlong (splitLocation location).2 v (splitLocation location).1 r

theorem assignAlong_eq (name : String) (v : Value) (way : List String) (r : Record) :
    assignAlong name v way r = settle r (writeAlong name v way r) := by
  induction way generalizing r with
  | nil => rw [assignAlong, Attribute.onFirst_assign, writeAlong, set, ← settle_map]
  | cons step way ih => rw [assignAlong, Attribute.onFirst_within ih, writeAlong, ← settle_map]

/-- Writing in place does all of the change or nothing. -/
theorem assign_eq (r : Record) (location : String) (v : Value) :
    r.assign location v = settle r (r.writePath location v) :=
  assignAlong_eq _ v _ r

end Record

/-! ## Putting what is there -/

namespace Attribute

mutual

theorem map_id (a : Attribute α) : a.map id = a := by
  cases a with
  | plain d c => rfl
  | nested d n info attributes => rw [map, mapAll_id attributes]

theorem mapAll_id (attributes : List (Attribute α)) : mapAll id attributes = attributes := by
  cases attributes with
  | nil => rfl
  | cons a rest => rw [mapAll, map_id a, mapAll_id rest]

end

end Attribute

namespace Shape

theorem map_id (s : Shape α) : s.map id = s := by rw [map, Attribute.mapAll_id]

/-- Putting what is there changes nothing. -/
theorem put_at? {s : Shape α} {content : α} {way : List String} {name : String}
    (h : s.at? way name = some content) : s.put content name way = s := by
  have hmap : (s.put content name way).map id = s.map id := map_put h rfl
  rwa [map_id, map_id] at hmap

end Shape

/-! ## Slots of regular types -/

theorem Attribute.isRegular_of_mem {a : Attribute Slot} {attributes : List (Attribute Slot)}
    (h : areRegular attributes = true) (ha : a ∈ attributes) : a.isRegular = true := by
  induction attributes with
  | nil => cases ha
  | cons b rest ih =>
    obtain ⟨hb, -, hrest⟩ := areRegular_cons h
    rcases List.mem_cons.1 ha with rfl | ha
    · exact hb
    · exact ih hrest ha

/-- Every slot of a regular type can be read and set. -/
theorem RecordType.slot_of_at? {t : RecordType} (ht : t.isRegular = true) {way : List String}
    {name : String} {slot : Slot} (h : t.at? way name = some slot) :
    slot.isReadable = true ∧ slot.isSettable = true := by
  induction way generalizing t with
  | nil =>
    obtain ⟨d, ha⟩ := Shape.at?_nil_eq_some_iff.1 h
    have hregular := Attribute.isRegular_of_mem ht (List.mem_of_find?_eq_some ha)
    simp only [Attribute.isRegular, Declaration.describes, Bool.and_eq_true] at hregular
    exact hregular.2.1.1
  | cons step way ih =>
    obtain ⟨d, n, inner, ha, hslot⟩ := Shape.at?_cons_eq_some_iff.1 h
    have hregular := Attribute.isRegular_of_mem ht (List.mem_of_find?_eq_some ha)
    rw [Attribute.isRegular, Bool.and_eq_true] at hregular
    exact ih hregular.2 hslot

namespace Record

variable {r r' : Record} {cell : Cell} {v : Value} {way : List String} {name location : String}

theorem slot_of_locate? (hr : r.type.isRegular = true) (h : r.locate? location = some cell) :
    cell.slot.isReadable = true ∧ cell.slot.isSettable = true := by
  have hslot : r.type.at? (splitLocation location).1 (splitLocation location).2 =
      some cell.slot := by
    rw [type, Shape.at?_map, ← Shape.locate?, h]
    rfl
  exact RecordType.slot_of_at? hr hslot

/-! ## What a successful write went through -/

theorem exists_plain_of_setIn {attributes attributes' : List (Attribute Cell)}
    (h : setIn name v attributes = .ok attributes') :
    ∃ d cell, attributes.find? (fun a => a.name == name) = some (.plain d cell) := by
  induction attributes generalizing attributes' with
  | nil => cases h
  | cons a rest ih =>
    by_cases ha : a.name = name
    · cases a with
      | plain d c => exact ⟨d, c, List.find?_cons_of_pos (by simpa using ha)⟩
      | nested d n info inner =>
        rw [setIn, if_pos ha] at h
        cases h
    · rw [setIn_cons_of_ne ha, map_eq_ok_iff] at h
      obtain ⟨rest', hrest, -⟩ := h
      rw [List.find?_cons_of_neg (by simpa using ha)]
      exact ih hrest

theorem exists_nested_of_updateIn {f : Record → Except SlotError Record}
    {attributes attributes' : List (Attribute Cell)}
    (h : updateIn name f attributes = .ok attributes') :
    ∃ d n, ∃ inner inner' : Record, attributes.find? (fun a => a.name == name) =
      some (.nested d n inner.info inner.attributes) ∧ f inner = .ok inner' := by
  induction attributes generalizing attributes' with
  | nil => cases h
  | cons a rest ih =>
    by_cases ha : a.name = name
    · cases a with
      | plain d c =>
        rw [updateIn, if_pos ha] at h
        cases h
      | nested d n info inner =>
        rw [updateIn, if_pos ha, map_eq_ok_iff] at h
        obtain ⟨inner', hinner', -⟩ := h
        exact ⟨d, n, ⟨info, inner⟩, inner', List.find?_cons_of_pos (by simpa using ha), hinner'⟩
    · rw [updateIn_cons_of_ne ha, map_eq_ok_iff] at h
      obtain ⟨rest', hrest, -⟩ := h
      rw [List.find?_cons_of_neg (by simpa using ha)]
      exact ih hrest

theorem exists_at?_of_writeAlong (h : writeAlong name v way r = .ok r') :
    ∃ cell, r.at? way name = some cell := by
  induction way generalizing r r' with
  | nil =>
    obtain ⟨attributes', hset, -⟩ := map_eq_ok_iff.1 h
    obtain ⟨d, cell, hfind⟩ := exists_plain_of_setIn hset
    exact ⟨cell, Shape.at?_nil_eq_some_iff.2 ⟨d, hfind⟩⟩
  | cons step way ih =>
    obtain ⟨attributes', hupdate, -⟩ := map_eq_ok_iff.1 h
    obtain ⟨d, n, inner, inner', hfind, hinner⟩ := exists_nested_of_updateIn hupdate
    obtain ⟨cell, hcell⟩ := ih hinner
    exact ⟨cell, Shape.at?_cons_eq_some_iff.2 ⟨d, n, inner, hfind, hcell⟩⟩

/-! ## The laws -/

/-- A write succeeds at the plain attributes, for the values that convert to their types, and puts
there what a value is converted to. -/
theorem writePath_eq_ok_iff (hr : r.type.isRegular = true) :
    r.writePath location v = .ok r' ↔
      ∃ cell content, r.locate? location = some cell ∧
        cell.slot.type.ofValue v = .ok content ∧
        r.put ⟨cell.slot, content⟩ (splitLocation location).2 (splitLocation location).1 = r' := by
  constructor
  · intro h
    obtain ⟨cell, hcell⟩ := exists_at?_of_writeAlong h
    rw [writePath_eq hcell (slot_of_locate? hr hcell).2, map_eq_ok_iff] at h
    obtain ⟨new, hnew, hput⟩ := h
    rw [rewritten] at hnew
    split at hnew
    · next content hcontent =>
      cases hnew
      exact ⟨cell, content, hcell, hcontent, hput⟩
    · cases hnew
  · rintro ⟨cell, content, hcell, hcontent, rfl⟩
    rw [writePath_eq hcell (slot_of_locate? hr hcell).2, rewritten, hcontent]
    rfl

/-- A plain attribute of a regular record reads as the value of what it stores. -/
theorem readPath?_of_locate? (hr : r.type.isRegular = true) (h : r.locate? location = some cell) :
    r.readPath? location = some (cell.slot.type.toValue cell.content) := by
  rw [readPath?_eq h, Cell.read?, if_pos (slot_of_locate? hr h).1]

/-- **Reading and writing at locations obey the laws of a lens.**  A write that fails leaves the
record as it was.  After one that succeeds the location reads as what the type of its attribute made
of the value, and every plain attribute at other names on the way reads as before.  Writing back
what a plain attribute reads as succeeds and changes nothing, if its type is unambiguous and has no
numbers of single precision. -/
theorem writePath_lens (hr : r.type.isRegular = true) (location : String) (v : Value) :
    (∀ e, r.writePath location v = .error e → r.assign location v = (r, .error e)) ∧
    (∀ r', r.writePath location v = .ok r' → r.assign location v = (r', .ok ()) ∧
      (∃ cell content, r.locate? location = some cell ∧
        cell.slot.type.ofValue v = .ok content ∧
        r'.readPath? location = some (cell.slot.type.toValue content)) ∧
      ∀ other, splitLocation other ≠ splitLocation location → (r.locate? other).isSome = true →
        r'.readPath? other = r.readPath? other) ∧
    ∀ cell, r.locate? location = some cell → cell.slot.type.hasSingle = false →
      cell.slot.type.isUnambiguous = true →
      ∃ w, r.readPath? location = some w ∧ r.writePath location w = .ok r := by
  refine ⟨fun e he => ?_, fun r' hr' => ?_, fun cell hcell hsingle hunambiguous => ?_⟩
  · rw [assign_eq, he, settle]
  · obtain ⟨cell, content, hcell, hcontent, hput⟩ := (writePath_eq_ok_iff hr).1 hr'
    refine ⟨by rw [assign_eq, hr', settle], ⟨cell, content, hcell, hcontent, ?_⟩, ?_⟩
    · have hfound : r'.locate? location = some ⟨cell.slot, content⟩ := by
        rw [← hput]
        exact Shape.at?_put_self hcell
      rw [readPath?_eq hfound, Cell.read?, if_pos (slot_of_locate? hr hcell).1]
    · intro other hother hsome
      obtain ⟨old, hold⟩ := Option.isSome_iff_exists.1 hsome
      have hkept : r'.locate? other = some old := by
        rw [← hput, ← hold]
        exact Shape.at?_put_of_ne hother
      rw [readPath?_eq hkept, readPath?_eq hold]
  · refine ⟨_, readPath?_of_locate? hr hcell, (writePath_eq_ok_iff hr).2 ?_⟩
    exact ⟨cell, cell.content, hcell,
      FieldType.roundTrips_of_isUnambiguous hsingle hunambiguous cell.content,
      Shape.put_at? hcell⟩

/-- A visit of a guest who may have told an age. -/
def visit : Record :=
  let guest : RecordType :=
    ⟨Reference.info "Guest" [],
      [Reference.plain "name" .text [], Reference.plain "age" (.optional (.uint .w8)) []]⟩
  let type : RecordType :=
    ⟨Reference.info "Visit" [],
      [Reference.plain "room" .text [], Reference.nested "guest" .named guest]⟩
  type.zero.put ⟨⟨.text, true, true⟩, "ada"⟩ "name" ["guest"]

/-- The age of a guest is written, and the name stays; an age that is none is refused, and nothing
is half written. -/
theorem writePath_lens_visit :
    visit.type.isRegular = true ∧
      (∃ e, visit.assign "guest.age" (.int 300) = (visit, .error e)) ∧
      (∃ r', visit.writePath "guest.age" (.int 30) = .ok r' ∧
        visit.assign "guest.age" (.int 30) = (r', .ok ()) ∧
        r'.readPath? "guest.age" = some (.uint 30) ∧
        r'.readPath? "guest.name" = some (.text "ada")) ∧
      ∃ w, visit.readPath? "guest.age" = some w ∧ visit.writePath "guest.age" w = .ok visit := by
  have hregular : visit.type.isRegular = true := by decide
  have hage : visit.locate? "guest.age" = some ⟨⟨.optional (.uint .w8), true, true⟩, none⟩ := rfl
  have hrefused : ∃ e, visit.writePath "guest.age" (.int 300) = .error e := ⟨_, rfl⟩
  have hwritten : ∃ r', visit.writePath "guest.age" (.int 30) = .ok r' := ⟨_, rfl⟩
  have hconverted : FieldType.ofValue (.optional (.uint .w8)) (.int 30) =
      .ok (some ⟨30, by decide⟩) := rfl
  obtain ⟨e, he⟩ := hrefused
  obtain ⟨r', hr'⟩ := hwritten
  obtain ⟨hassign, ⟨cell, content, hcell, hcontent, hread⟩, hkept⟩ :=
    (writePath_lens hregular "guest.age" (.int 30)).2.1 r' hr'
  obtain rfl := Option.some.inj (hage.symm.trans hcell)
  obtain rfl := Except.ok.inj (hconverted.symm.trans hcontent)
  refine ⟨hregular, ⟨e, (writePath_lens hregular "guest.age" (.int 300)).1 e he⟩,
    ⟨r', hr', hassign, hread, hkept "guest.name" (by decide) rfl⟩,
    (writePath_lens hregular "guest.age" .null).2.2 _ hage rfl rfl⟩

end Record

end FieldRules
