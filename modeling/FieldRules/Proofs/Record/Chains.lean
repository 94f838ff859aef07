import FieldRules.Proofs.Record.Leaves
import FieldRules.Proofs.Record.Lens
import Mathlib.Data.List.Induction
import Mathlib.Data.List.Nodup

/-!
# Chains of names

An attribute stands in a record below a chain of nested records.  Where the names of a regular record
are joined in the order of the chain, with any separators between them, the location that comes out
is split into the same names again; and what is found by them, name by name, is the attribute.

## Main definitions

* `Attribute.StandsIn` — an attribute stands below a chain of nested records.
* `wayAlong` — the beginning of a location, with names and the separators behind them.

## Main statements

* `Attribute.mem_allLeaves_iff` — the leaves are the plain attributes with the chains above them.
* `Record.resolvePath?_of_standsIn`, `Record.readPath?_of_standsIn` — a location with the names of a
  chain leads to the attribute below it.
-/

namespace FieldRules

variable {α β : Type}

/-! ## Standing below a chain -/

/-- An attribute stands among some attributes below a chain of nested records, the outermost
first. -/
inductive Attribute.StandsIn : List (Declaration × Nesting) → Attribute α → List (Attribute α) → Prop
  | here {a : Attribute α} {attributes : List (Attribute α)} : a ∈ attributes →
      StandsIn [] a attributes
  | inside {a : Attribute α} {attributes inner : List (Attribute α)} {d : Declaration}
      {n : Nesting} {info : TypeInfo} {above : List (Declaration × Nesting)} :
      .nested d n info inner ∈ attributes → StandsIn above a inner →
      StandsIn ((d, n) :: above) a attributes

/-- The names of a chain. -/
def namesAlong (above : List (Declaration × Nesting)) : List String := above.map fun s => s.1.name

namespace Attribute

variable {a : Attribute α} {attributes rest : List (Attribute α)}
  {above : List (Declaration × Nesting)}

theorem StandsIn.mono (h : StandsIn above a rest) (hsub : ∀ b ∈ rest, b ∈ attributes) :
    StandsIn above a attributes := by
  cases h with
  | here ha => exact .here (hsub _ ha)
  | inside hnested h => exact .inside (hsub _ hnested) h

theorem standsIn_cons_iff (b : Attribute α) (rest : List (Attribute α)) :
    StandsIn above a (b :: rest) ↔ StandsIn above a [b] ∨ StandsIn above a rest := by
  constructor
  · intro h
    cases h with
    | here ha =>
      exact (List.mem_cons.1 ha).imp (fun heq => .here (List.mem_singleton.2 heq)) .here
    | inside hnested h =>
      exact (List.mem_cons.1 hnested).imp (fun heq => .inside (List.mem_singleton.2 heq) h)
        fun hmem => .inside hmem h
  · rintro (h | h)
    · exact h.mono fun c hc => List.mem_cons.2 (.inl (List.mem_singleton.1 hc))
    · exact h.mono fun c => List.mem_cons_of_mem b

mutual

/-- The leaves of an attribute are the plain attributes that stand in it. -/
theorem mem_leaves_iff (a : Attribute α) {above : List (Declaration × Nesting)} {l : Leaf} :
    l ∈ a.leaves above ↔ ∃ inner content, l.above = above ++ inner ∧
      StandsIn inner (.plain l.declaration content) [a] := by
  cases a with
  | plain d content =>
    rw [leaves, List.mem_singleton]
    constructor
    · rintro rfl
      exact ⟨[], content, (List.append_nil _).symm, .here (List.mem_singleton_self _)⟩
    · rintro ⟨inner, content', habove, hstands⟩
      cases hstands with
      | here ha =>
        obtain ⟨hd, -⟩ := Attribute.plain.inj (List.mem_singleton.1 ha)
        rw [List.append_nil] at habove
        rw [← habove, ← hd]
      | inside hnested _ => cases List.mem_singleton.1 hnested
  | nested d n info attributes =>
    rw [leaves, mem_allLeaves_iff attributes]
    constructor
    · rintro ⟨inner, content, habove, hstands⟩
      exact ⟨(d, n) :: inner, content, by rw [habove, List.append_assoc, List.singleton_append],
        .inside (List.mem_singleton_self _) hstands⟩
    · rintro ⟨inner, content, habove, hstands⟩
      cases hstands with
      | here ha => cases List.mem_singleton.1 ha
      | inside hnested hstands =>
        obtain ⟨rfl, rfl, rfl, rfl⟩ := Attribute.nested.inj (List.mem_singleton.1 hnested)
        exact ⟨_, content, by rw [habove, List.append_assoc, List.singleton_append], hstands⟩

/-- **The leaves of some attributes are the plain attributes that stand among them**, with the chains
above them. -/
theorem mem_allLeaves_iff (attributes : List (Attribute α)) {above : List (Declaration × Nesting)}
    {l : Leaf} : l ∈ allLeaves above attributes ↔ ∃ inner content, l.above = above ++ inner ∧
      StandsIn inner (.plain l.declaration content) attributes := by
  cases attributes with
  | nil =>
    refine ⟨nofun, ?_⟩
    rintro ⟨inner, content, -, hstands⟩
    cases hstands with
    | here ha => cases ha
    | inside hnested _ => cases hnested
  | cons b rest =>
    rw [allLeaves, List.mem_append, mem_leaves_iff b, mem_allLeaves_iff rest]
    simp only [standsIn_cons_iff b rest, and_or_left, exists_or]

end

mutual

/-- What stands at the leaves does not matter for what they are. -/
theorem leaves_map (f : α → β) (above : List (Declaration × Nesting)) (a : Attribute α) :
    (a.map f).leaves above = a.leaves above := by
  cases a with
  | plain d content => rfl
  | nested d n info attributes => rw [map, leaves, leaves, allLeaves_mapAll]

theorem allLeaves_mapAll (f : α → β) (above : List (Declaration × Nesting))
    (attributes : List (Attribute α)) :
    allLeaves above (mapAll f attributes) = allLeaves above attributes := by
  cases attributes with
  | nil => rfl
  | cons a rest => rw [mapAll, allLeaves, allLeaves, leaves_map, allLeaves_mapAll]

end

end Attribute

/-- Each leaf of the type of a record has a cell in it. -/
theorem Record.exists_standsIn_of_mem_leaves {r : Record} {l : Leaf} (hl : l ∈ r.type.leaves) :
    ∃ cell, Attribute.StandsIn l.above (.plain l.declaration cell) r.attributes := by
  rw [RecordType.leaves, type, Shape.map, Attribute.allLeaves_mapAll,
    Attribute.mem_allLeaves_iff r.attributes] at hl
  obtain ⟨inner, cell, habove, hstands⟩ := hl
  rw [List.nil_append] at habove
  exact ⟨cell, habove ▸ hstands⟩

/-! ## Regular chains -/

namespace Attribute

variable {f : α → Slot} {a : Attribute α} {attributes : List (Attribute α)}

/-- The name of a regular attribute holds no separator. -/
theorem isSingleName_of_isRegular (h : (a.map f).isRegular = true) : isSingleName a.name = true := by
  cases a <;> rw [map, isRegular, Bool.and_eq_true] at h <;> exact h.1

theorem mapAll_eq_map (f : α → β) (attributes : List (Attribute α)) :
    mapAll f attributes = attributes.map (map f) := by
  induction attributes with
  | nil => rfl
  | cons a rest ih => rw [mapAll, ih, List.map_cons]

theorem isRegular_of_mem_mapAll (h : areRegular (mapAll f attributes) = true)
    (ha : a ∈ attributes) : (a.map f).isRegular = true := by
  refine isRegular_of_mem h ?_
  rw [mapAll_eq_map]
  exact List.mem_map_of_mem ha

/-- The attributes of a regular record have different names. -/
theorem nodup_names (h : areRegular (mapAll f attributes) = true) :
    (attributes.map name).Nodup := by
  induction attributes with
  | nil => exact List.nodup_nil
  | cons a rest ih =>
    rw [mapAll] at h
    obtain ⟨-, hne, hrest⟩ := areRegular_cons h
    rw [mapAll_eq_map] at hne
    refine List.nodup_cons.2 ⟨fun hmem => ?_, ih hrest⟩
    obtain ⟨b, hb, hname⟩ := List.mem_map.1 hmem
    exact hne (b.map f) (List.mem_map_of_mem hb) (by simpa using hname)

/-- Where names differ, an attribute is the one that is found by its name. -/
theorem find?_of_mem (h : (attributes.map name).Nodup) (ha : a ∈ attributes) :
    attributes.find? (fun b => b.name == a.name) = some a := by
  cases hfound : attributes.find? fun b => b.name == a.name with
  | none => exact absurd (List.find?_eq_none.1 hfound a ha) (by simp)
  | some b =>
    have hname := List.find?_some hfound
    rw [List.inj_on_of_nodup_map h (List.mem_of_find?_eq_some hfound) ha (beq_iff_eq.1 hname)]

theorem isRegular_nested {d : Declaration} {n : Nesting} {info : TypeInfo}
    {inner : List (Attribute α)} (h : ((nested d n info inner).map f).isRegular = true) :
    isSingleName d.name = true ∧ areRegular (mapAll f inner) = true := by
  rwa [map, isRegular, Bool.and_eq_true] at h

/-- What stands below a chain in a regular record is regular. -/
theorem StandsIn.isRegular {above : List (Declaration × Nesting)} (h : StandsIn above a attributes)
    (hregular : areRegular (mapAll f attributes) = true) : (a.map f).isRegular = true := by
  induction h with
  | here ha => exact isRegular_of_mem_mapAll hregular ha
  | inside hnested _ ih => exact ih (isRegular_nested (isRegular_of_mem_mapAll hregular hnested)).2

/-- No name of a chain in a regular record holds a separator. -/
theorem StandsIn.areSingleNames {above : List (Declaration × Nesting)}
    (h : StandsIn above a attributes) (hregular : areRegular (mapAll f attributes) = true) :
    ∀ name ∈ namesAlong above, isSingleName name = true := by
  induction h with
  | here => exact nofun
  | inside hnested _ ih =>
    obtain ⟨hname, hinner⟩ := isRegular_nested (isRegular_of_mem_mapAll hregular hnested)
    exact List.forall_mem_cons.2 ⟨hname, ih hinner⟩

end Attribute

/-! ## Locations -/

/-- The beginning of a location, with names and the separators behind them. -/
def wayAlong (steps : List (String × Nesting)) : String :=
  steps.foldl (fun way s => way ++ s.1 ++ Leaf.sign s.2) ""

theorem Leaf.wayOf_eq (above : List (Declaration × Nesting)) :
    wayOf above = wayAlong (above.map fun s => (s.1.name, s.2)) := by
  rw [wayOf, wayAlong, List.foldl_map]

/-- Names without separators are on the way that they begin, whatever separators are between
them. -/
theorem isWay_wayAlong {steps : List (String × Nesting)}
    (h : ∀ name ∈ steps.map Prod.fst, isSingleName name = true) :
    IsWay (wayAlong steps) (steps.map Prod.fst) := by
  induction steps using List.reverseRecOn with
  | nil => exact isWay_empty
  | append_singleton steps s ih =>
    rw [List.map_append, List.forall_mem_append] at h
    have hsign : Leaf.sign s.2 = "." ∨ Leaf.sign s.2 = "+" := by
      cases s.2
      · exact .inr rfl
      · exact .inl rfl
    rw [wayAlong, List.foldl_concat, List.map_append]
    exact (ih h.1).step (h.2 s.1 (List.mem_singleton_self _)) hsign

/-- A location with the names of a chain in a regular record is split into them. -/
theorem Attribute.StandsIn.splitLocation {f : α → Slot} {a : Attribute α}
    {attributes : List (Attribute α)} {above : List (Declaration × Nesting)}
    {steps : List (String × Nesting)} (h : StandsIn above a attributes)
    (hregular : areRegular (mapAll f attributes) = true)
    (hsteps : steps.map Prod.fst = namesAlong above) :
    splitLocation (wayAlong steps ++ a.name) = (namesAlong above, a.name) := by
  have hnames := h.areSingleNames hregular
  rw [← hsteps] at hnames ⊢
  exact (isWay_wayAlong hnames).splitLocation_append
    (Attribute.isSingleName_of_isRegular (h.isRegular hregular))

namespace Record

variable {r : Record} {a : Attribute Cell} {above : List (Declaration × Nesting)}
  {steps : List (String × Nesting)}

/-- What stands below a chain in a regular record is found at the end of the names of the chain. -/
theorem exists_follow?_of_standsIn (hr : r.type.isRegular = true)
    (h : Attribute.StandsIn above a r.attributes) :
    ∃ owner, r.follow? (namesAlong above) = some owner ∧ owner.find? a.name = some a := by
  obtain ⟨info, attributes⟩ := r
  dsimp only at h
  induction h generalizing info with
  | here ha => exact ⟨_, rfl, Attribute.find?_of_mem (Attribute.nodup_names hr) ha⟩
  | @inside a attributes inner d n info' above hnested _ ih =>
    have hinner := Attribute.isRegular_nested (Attribute.isRegular_of_mem_mapAll hr hnested)
    have hfind : Shape.find? ⟨info, attributes⟩ d.name = some (.nested d n info' inner) :=
      Attribute.find?_of_mem (Attribute.nodup_names hr) hnested
    have hchild : Shape.child? ⟨info, attributes⟩ d.name = some ⟨info', inner⟩ := by
      rw [Shape.child?, hfind]
      rfl
    obtain ⟨owner, howner, hfound⟩ := ih info' hinner.2
    refine ⟨owner, ?_, hfound⟩
    rw [namesAlong, List.map_cons, follow?, hchild]
    exact howner

/-- **A location with the names of a chain leads to the attribute below it**, whatever separators it
has. -/
theorem resolvePath?_of_standsIn (hr : r.type.isRegular = true)
    (h : Attribute.StandsIn above a r.attributes) (hsteps : steps.map Prod.fst = namesAlong above) :
    ∃ owner, r.resolvePath? (wayAlong steps ++ a.name) = some (owner, a.name) ∧
      owner.find? a.name = some a := by
  obtain ⟨owner, howner, hfound⟩ := exists_follow?_of_standsIn hr h
  refine ⟨owner, ?_, hfound⟩
  rw [resolvePath?, h.splitLocation hr hsteps]
  simp only [howner, Option.map_some]

/-- What is read at a location with the names of a chain is how the attribute below it reads. -/
theorem readPath?_of_standsIn (hr : r.type.isRegular = true)
    (h : Attribute.StandsIn above a r.attributes) (hsteps : steps.map Prod.fst = namesAlong above) :
    r.readPath? (wayAlong steps ++ a.name) = (view a).reading := by
  obtain ⟨owner, howner, hfound⟩ := resolvePath?_of_standsIn hr h hsteps
  rw [readPath?, howner, Option.bind_some, get?, hfound, Option.bind_some]

/-- The cell of a plain attribute below a chain stands at the place of its location. -/
theorem locate?_of_standsIn {d : Declaration} {cell : Cell} (hr : r.type.isRegular = true)
    (h : Attribute.StandsIn above (.plain d cell) r.attributes)
    (hsteps : steps.map Prod.fst = namesAlong above) :
    r.locate? (wayAlong steps ++ d.name) = some cell := by
  obtain ⟨owner, howner, hfound⟩ := exists_follow?_of_standsIn hr h
  have hsplit := h.splitLocation hr hsteps
  have hname : (Attribute.plain d cell).name = d.name := rfl
  rw [hname] at hfound hsplit
  rw [Shape.locate?, hsplit, at?_eq_follow?, howner, Option.bind_some, hfound]
  rfl

end Record

end FieldRules
