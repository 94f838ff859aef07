import FieldRules.Field

/-!
# What stands at a place

A place in a record is named by the way of names to a record inside it and the name of a plain
attribute there.  Looking at a place and putting something there obey the laws of a lens: what was
put is found, nothing else moves, and the type of the record stays.  Reading and writing at a
location look at the place of the location and put there what the value is converted to.

## Main definitions

* `Shape.at?`, `Shape.put` — looking at a place, and putting something there.
* `Shape.locate?` — what stands at the place of a location.

## Main statements

* `Shape.at?_put_self`, `Shape.at?_put_of_ne`, `Shape.map_put` — the laws of putting.
* `Record.readPath?_eq`, `Record.writePath_eq` — reading and writing at a location.
* `Field.store_of_ok`, `Field.store_of_error` — storing a value in a field.
-/

namespace FieldRules

variable {α β : Type}

namespace Attribute

/-- What stands at a plain attribute. -/
def content? : Attribute α → Option α
  | .plain _ a => some a
  | .nested _ _ _ _ => none

/-- Puts something at an attribute, if it is plain. -/
def putContent (content : α) : Attribute α → Attribute α
  | .plain d _ => .plain d content
  | .nested d n info attributes => .nested d n info attributes

/-- Changes the record of an attribute, if it is nested. -/
def modifyChild (f : Shape α → Shape α) : Attribute α → Attribute α
  | .plain d a => .plain d a
  | .nested d n info attributes =>
    .nested d n (f ⟨info, attributes⟩).info (f ⟨info, attributes⟩).attributes

/-- Changes the first attribute of a name. -/
def modifyFirst (name : String) (f : Attribute α → Attribute α) :
    List (Attribute α) → List (Attribute α)
  | [] => []
  | a :: rest => if a.name = name then f a :: rest else a :: modifyFirst name f rest

@[simp] theorem name_putContent (content : α) (a : Attribute α) :
    (a.putContent content).name = a.name := by
  cases a <;> rfl

@[simp] theorem name_modifyChild (f : Shape α → Shape α) (a : Attribute α) :
    (a.modifyChild f).name = a.name := by
  cases a <;> rfl

@[simp] theorem name_map (f : α → β) (a : Attribute α) : (a.map f).name = a.name := by
  cases a <;> simp [map, name, declaration]

@[simp] theorem content?_map (f : α → β) (a : Attribute α) :
    (a.map f).content? = a.content?.map f := by
  cases a <;> simp [map, content?]

@[simp] theorem child?_map (f : α → β) (a : Attribute α) :
    (a.map f).child? = a.child?.map (Shape.map f) := by
  cases a <;> simp [map, child?, Shape.map]

@[simp] theorem child?_putContent (content : α) (a : Attribute α) :
    (a.putContent content).child? = a.child? := by
  cases a <;> rfl

@[simp] theorem content?_modifyChild (f : Shape α → Shape α) (a : Attribute α) :
    (a.modifyChild f).content? = a.content? := by
  cases a <;> rfl

@[simp] theorem child?_modifyChild (f : Shape α → Shape α) (a : Attribute α) :
    (a.modifyChild f).child? = a.child?.map f := by
  cases a <;> rfl

theorem content?_eq_some_iff {a : Attribute α} {content : α} :
    a.content? = some content ↔ ∃ d, a = .plain d content := by
  cases a <;> simp [content?]

theorem child?_eq_some_iff {a : Attribute α} {inner : Shape α} :
    a.child? = some inner ↔ ∃ d n, a = .nested d n inner.info inner.attributes := by
  cases a with
  | plain d c => simp [child?]
  | nested d n info attributes =>
    obtain ⟨info', attributes'⟩ := inner
    simp [child?]

/-- What changing the first attribute of a name does to the view by names. -/
theorem find?_modifyFirst {f : Attribute α → Attribute α} (hf : ∀ a, (f a).name = a.name)
    (name name' : String) (attributes : List (Attribute α)) :
    ((modifyFirst name f attributes).find? fun a => a.name == name') =
      if name' = name then (attributes.find? fun a => a.name == name').map f
      else attributes.find? fun a => a.name == name' := by
  induction attributes with
  | nil => simp [modifyFirst]
  | cons a rest ih =>
    by_cases ha : a.name = name
    · by_cases hname : name' = name
      · simp [modifyFirst, ha, hf, hname]
      · have hne : name ≠ name' := fun h => hname h.symm
        simp [modifyFirst, ha, hf, hne, hname]
    · by_cases hname : a.name = name'
      · have hne : name' ≠ name := fun h => ha (hname.trans h)
        simp [modifyFirst, hname, hne]
      · simp [modifyFirst, ha, hname, ih]

theorem mapAll_modifyFirst {g : α → β} {f : Attribute α → Attribute α} {name : String}
    {attributes : List (Attribute α)}
    (h : ∀ a, attributes.find? (fun a => a.name == name) = some a → (f a).map g = a.map g) :
    mapAll g (modifyFirst name f attributes) = mapAll g attributes := by
  induction attributes with
  | nil => rfl
  | cons a rest ih =>
    by_cases ha : a.name = name
    · simp [modifyFirst, ha, mapAll, h a (by simp [ha])]
    · rw [modifyFirst, if_neg ha, mapAll, mapAll, ih fun b hb => h b (by simp [ha, hb])]

theorem find?_mapAll (f : α → β) (name : String) (attributes : List (Attribute α)) :
    ((mapAll f attributes).find? fun a => a.name == name) =
      (attributes.find? fun a => a.name == name).map (map f) := by
  induction attributes with
  | nil => rfl
  | cons a rest ih => by_cases ha : a.name = name <;> simp [mapAll, ha, ih]

end Attribute

namespace Shape

/-- What stands at a place: at the plain attribute of a name, in the record at the end of a way of
names. -/
def at? (s : Shape α) : List String → String → Option α
  | [], name => (s.find? name).bind Attribute.content?
  | step :: way, name => (s.child? step).bind fun inner => at? inner way name

/-- Puts something at a place, if there is a plain attribute. -/
def put (content : α) (name : String) : List String → Shape α → Shape α
  | [], s => ⟨s.info, Attribute.modifyFirst name (Attribute.putContent content) s.attributes⟩
  | step :: way, s =>
    ⟨s.info, Attribute.modifyFirst step (Attribute.modifyChild (put content name way)) s.attributes⟩

/-- What stands at the place of a location. -/
def locate? (s : Shape α) (location : String) : Option α :=
  s.at? (splitLocation location).1 (splitLocation location).2

theorem find?_map (f : α → β) (s : Shape α) (name : String) :
    (s.map f).find? name = (s.find? name).map (Attribute.map f) :=
  Attribute.find?_mapAll f name s.attributes

@[simp] theorem at?_map (f : α → β) (s : Shape α) (way : List String) (name : String) :
    (s.map f).at? way name = (s.at? way name).map f := by
  induction way generalizing s with
  | nil => cases h : s.find? name <;> simp [at?, find?_map, h]
  | cons step way ih =>
    have hchild : (s.map f).child? step = (s.child? step).map (Shape.map f) := by
      cases h : s.find? step <;> simp [child?, find?_map, h]
    rw [at?, at?, hchild]
    cases s.child? step with
    | none => rfl
    | some inner => exact ih inner

section Laws

variable {s : Shape α} {content old : α} {step : String} {way way' : List String}
  {name name' : String}

/-! ## What is found on the way -/

/-- What stands in the record itself stands at a plain attribute. -/
theorem at?_nil_eq_some_iff :
    s.at? [] name = some content ↔ ∃ d, s.find? name = some (.plain d content) := by
  simp only [at?, Option.bind_eq_some_iff, Attribute.content?_eq_some_iff]
  constructor
  · rintro ⟨a, ha, d, rfl⟩
    exact ⟨d, ha⟩
  · rintro ⟨d, ha⟩
    exact ⟨_, ha, d, rfl⟩

/-- What stands at the end of a longer way stands in a nested record. -/
theorem at?_cons_eq_some_iff :
    s.at? (step :: way) name = some content ↔
      ∃ d n, ∃ inner : Shape α, s.find? step = some (.nested d n inner.info inner.attributes) ∧
        inner.at? way name = some content := by
  simp only [at?, child?, Option.bind_eq_some_iff, Attribute.child?_eq_some_iff]
  constructor
  · rintro ⟨inner, ⟨a, ha, d, n, rfl⟩, hcontent⟩
    exact ⟨d, n, inner, ha, hcontent⟩
  · rintro ⟨d, n, inner, ha, hcontent⟩
    exact ⟨inner, ⟨_, ha, d, n, rfl⟩, hcontent⟩

/-! ## The laws of putting -/

theorem find?_put_nil (s : Shape α) (content : α) (name name' : String) :
    (s.put content name []).find? name' =
      if name' = name then (s.find? name').map (Attribute.putContent content) else s.find? name' :=
  Attribute.find?_modifyFirst (Attribute.name_putContent content) name name' s.attributes

theorem find?_put_cons (s : Shape α) (content : α) (name : String) (step : String)
    (way : List String) (name' : String) :
    (s.put content name (step :: way)).find? name' =
      if name' = step then (s.find? name').map (Attribute.modifyChild (put content name way))
      else s.find? name' :=
  Attribute.find?_modifyFirst (Attribute.name_modifyChild _) step name' s.attributes

/-- What is put is found. -/
theorem at?_put_self (h : s.at? way name = some old) :
    (s.put content name way).at? way name = some content := by
  induction way generalizing s with
  | nil =>
    obtain ⟨d, ha⟩ := at?_nil_eq_some_iff.1 h
    exact at?_nil_eq_some_iff.2 ⟨d, by simp [find?_put_nil, ha, Attribute.putContent]⟩
  | cons step way ih =>
    obtain ⟨d, n, inner, ha, hold⟩ := at?_cons_eq_some_iff.1 h
    refine at?_cons_eq_some_iff.2 ⟨d, n, inner.put content name way, ?_, ih hold⟩
    simp [find?_put_cons, ha, Attribute.modifyChild]

/-- Nothing else moves. -/
theorem at?_put_of_ne (h : (way', name') ≠ (way, name)) :
    (s.put content name way).at? way' name' = s.at? way' name' := by
  induction way generalizing s way' with
  | nil =>
    cases way' with
    | nil =>
      have hname : name' ≠ name := fun heq => h (by rw [heq])
      simp [at?, find?_put_nil, hname]
    | cons step' way' =>
      -- an attribute that is put at has no record before and after
      have hchild : (s.put content name []).child? step' = s.child? step' := by
        rw [child?, child?, find?_put_nil]
        split
        · cases s.find? step' <;> simp
        · rfl
      rw [at?, at?, hchild]
  | cons step way ih =>
    cases way' with
    | nil =>
      rw [at?, at?, find?_put_cons]
      split
      · cases s.find? name' <;> simp
      · rfl
    | cons step' way' =>
      rw [at?, at?, child?, child?, find?_put_cons]
      by_cases hstep : step' = step
      · have hrest : (way', name') ≠ (way, name) := by
          rintro heq
          cases heq
          exact h (by rw [hstep])
        rw [if_pos hstep]
        cases hfind : s.find? step' with
        | none => rfl
        | some a => cases hchild : a.child? <;> simp [hchild, ih hrest]
      · rw [if_neg hstep]

/-- Putting keeps what a change of contents does not tell apart. -/
theorem map_put {f : α → β} (h : s.at? way name = some old) (hf : f content = f old) :
    (s.put content name way).map f = s.map f := by
  induction way generalizing s with
  | nil =>
    obtain ⟨d, ha⟩ := at?_nil_eq_some_iff.1 h
    refine congrArg (Shape.mk s.info) (Attribute.mapAll_modifyFirst fun b hb => ?_)
    obtain rfl := Option.some.inj (ha.symm.trans hb)
    simp [Attribute.putContent, Attribute.map, hf]
  | cons step way ih =>
    obtain ⟨d, n, inner, ha, hold⟩ := at?_cons_eq_some_iff.1 h
    refine congrArg (Shape.mk s.info) (Attribute.mapAll_modifyFirst fun b hb => ?_)
    obtain rfl := Option.some.inj (ha.symm.trans hb)
    have hinner : (inner.put content name way).map f = inner.map f := ih hold
    rw [Shape.map, Shape.map, Shape.mk.injEq] at hinner
    simp [Attribute.modifyChild, Attribute.map, hinner.1, hinner.2]

end Laws

end Shape

/-! ## Reading and writing -/

namespace Record

variable {r : Record} {cell : Cell} {way : List String} {name location : String}

/-- What is found on the way to a place is followed by name. -/
theorem at?_eq_follow? (r : Record) (way : List String) (name : String) :
    r.at? way name =
      (r.follow? way).bind fun owner => (owner.find? name).bind Attribute.content? := by
  induction way generalizing r with
  | nil => rfl
  | cons step way ih =>
    rw [Shape.at?, follow?]
    cases r.child? step with
    | none => rfl
    | some inner => exact ih inner

/-- Reading a location reads the cell at its place. -/
theorem readPath?_eq (h : r.locate? location = some cell) :
    r.readPath? location = cell.read? := by
  rw [Shape.locate?, at?_eq_follow?, Option.bind_eq_some_iff] at h
  obtain ⟨owner, howner, hcell⟩ := h
  obtain ⟨a, ha, hcontent⟩ := Option.bind_eq_some_iff.1 hcell
  obtain ⟨d, rfl⟩ := Attribute.content?_eq_some_iff.1 hcontent
  simp [readPath?, resolvePath?, howner, get?, ha, view]

/-- What writing a cell comes to: the value is converted to the type of the cell. -/
def rewritten (cell : Cell) (v : Value) : Except SlotError Cell :=
  match cell.slot.type.ofValue v with
  | .ok content => .ok ⟨cell.slot, content⟩
  | .error misfit => .error (.coerce misfit)

/-- An attribute of another name is passed by. -/
theorem setIn_cons_of_ne {a : Attribute Cell} (h : a.name ≠ name) (v : Value)
    (rest : List (Attribute Cell)) :
    setIn name v (a :: rest) = (setIn name v rest).map (a :: ·) := by
  cases a <;> exact if_neg h

theorem updateIn_cons_of_ne {a : Attribute Cell} (h : a.name ≠ name)
    (f : Record → Except SlotError Record) (rest : List (Attribute Cell)) :
    updateIn name f (a :: rest) = (updateIn name f rest).map (a :: ·) := by
  cases a <;> exact if_neg h

theorem setIn_eq {v : Value} {d : Declaration} {attributes : List (Attribute Cell)}
    (h : attributes.find? (fun a => a.name == name) = some (.plain d cell))
    (hset : cell.slot.isSettable = true) :
    setIn name v attributes = (rewritten cell v).map fun cell =>
      Attribute.modifyFirst name (Attribute.putContent cell) attributes := by
  induction attributes with
  | nil => cases h
  | cons a rest ih =>
    by_cases ha : a.name = name
    · simp only [List.find?_cons, ha, beq_self_eq_true, Option.some.injEq] at h
      subst h
      simp only [setIn, ha, if_true, hset, rewritten, Attribute.modifyFirst,
        Attribute.putContent]
      cases cell.slot.type.ofValue v <;> rfl
    · rw [List.find?_cons_of_neg (by simpa using ha)] at h
      rw [setIn_cons_of_ne ha, ih h]
      cases rewritten cell v <;> simp [Except.map, Attribute.modifyFirst, ha]

theorem updateIn_eq {f : Record → Except SlotError Record} {g : Cell → Record → Record}
    {result : Except SlotError Cell} {d : Declaration} {n : Nesting} {info : TypeInfo}
    {inner attributes : List (Attribute Cell)}
    (h : attributes.find? (fun a => a.name == name) = some (.nested d n info inner))
    (hf : f ⟨info, inner⟩ = result.map fun cell => g cell ⟨info, inner⟩) :
    updateIn name f attributes = result.map fun cell =>
      Attribute.modifyFirst name (Attribute.modifyChild (g cell)) attributes := by
  induction attributes with
  | nil => cases h
  | cons a rest ih =>
    by_cases ha : a.name = name
    · simp only [List.find?_cons, ha, beq_self_eq_true, Option.some.injEq] at h
      subst h
      simp only [updateIn, ha, if_true, hf, Attribute.modifyFirst, Attribute.modifyChild]
      cases result <;> rfl
    · rw [List.find?_cons_of_neg (by simpa using ha)] at h
      rw [updateIn_cons_of_ne ha, ih h]
      cases result <;> simp [Except.map, Attribute.modifyFirst, ha]

theorem writeAlong_eq {v : Value} (h : r.at? way name = some cell)
    (hset : cell.slot.isSettable = true) :
    writeAlong name v way r = (rewritten cell v).map fun cell => r.put cell name way := by
  induction way generalizing r with
  | nil =>
    obtain ⟨d, ha⟩ := Shape.at?_nil_eq_some_iff.1 h
    rw [writeAlong, set, setIn_eq ha hset]
    cases rewritten cell v <;> rfl
  | cons step way ih =>
    obtain ⟨d, n, inner, ha, hcell⟩ := Shape.at?_cons_eq_some_iff.1 h
    rw [writeAlong, updateIn_eq (g := fun cell => Shape.put cell name way) ha (ih hcell)]
    cases rewritten cell v <;> rfl

/-- Writing a location puts at its place what the value is converted to. -/
theorem writePath_eq {v : Value} (h : r.locate? location = some cell)
    (hset : cell.slot.isSettable = true) :
    r.writePath location v = (rewritten cell v).map fun cell =>
      r.put cell (splitLocation location).2 (splitLocation location).1 :=
  writeAlong_eq h hset

end Record

namespace Field

variable {f : Field} {r : Record} {cell : Cell} {v : Value}

/-- A value that converts to the type of the cell is put in its place. -/
theorem store_of_ok {content : cell.slot.type.Content} (h : r.locate? f.location = some cell)
    (hset : cell.slot.isSettable = true) (hv : cell.slot.type.ofValue v = .ok content) :
    f.store r v = .ok (r.put ⟨cell.slot, content⟩ (splitLocation f.location).2
      (splitLocation f.location).1) := by
  rw [store, Record.writePath_eq h hset, Record.rewritten, hv]
  rfl

/-- A value that does not convert shows a mistaken declaration of the field. -/
theorem store_of_error {misfit : Misfit} (h : r.locate? f.location = some cell)
    (hset : cell.slot.isSettable = true) (hv : cell.slot.type.ofValue v = .error misfit) :
    f.store r v = .error (.field f.location (.configuration misfit.message)) := by
  rw [store, Record.writePath_eq h hset, Record.rewritten, hv]
  rfl

end Field

end FieldRules
