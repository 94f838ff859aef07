import FieldRules.FieldTable
import FieldRules.Proofs.Record.Path

/-!
# Types whose locations resolve

The walk over a record type gives every plain attribute a location, and a location is resolved name
by name.  The two fit together where the names of a record differ and hold no separator: then the
location of a site leads to the attribute that the site is about, and two sites have different
places.

## Main definitions

* `RecordType.isRegular` — names that differ and hold no separator, and slots that can be read and
  set and are of the kind that their attribute declares.
* `Site.Resolves` — the location of a site leads to a slot that its declaration describes.

## Main statements

* `resolves_of_mem_sites` — the location of every site of a regular type resolves.
* `pairwise_sites` — different sites of a regular type have different places.
-/

namespace FieldRules

/-! ## Regular types -/

/-- Whether a name holds no separator of locations. -/
def isSingleName (name : String) : Bool := name.toList.all fun c => c != '.' && c != '+'

/-- Whether an attribute is declared with what its slot is: a slot that can be read and set, of the
declared kind, and optional where that is declared. -/
def Declaration.describes (d : Declaration) (s : Slot) : Bool :=
  s.isReadable && s.isSettable && decide (d.kind = s.type.kind) &&
    d.isOptional == s.type.isOptional

mutual

/-- Whether an attribute and those below it are as a declaration by types makes them. -/
def Attribute.isRegular : Attribute Slot → Bool
  | .plain d s => isSingleName d.name && d.describes s
  | .nested d _ _ attributes => isSingleName d.name && areRegular attributes

/-- Whether attributes are regular and have different names. -/
def Attribute.areRegular : List (Attribute Slot) → Bool
  | [] => true
  | a :: rest => isRegular a && rest.all (fun b => b.name != a.name) && areRegular rest

end

/-- Whether a record type is regular.  Types that are declared by the types of their attributes
are. -/
def RecordType.isRegular (t : RecordType) : Bool := Attribute.areRegular t.attributes

namespace Attribute

theorem areRegular_cons {a : Attribute Slot} {rest : List (Attribute Slot)}
    (h : areRegular (a :: rest) = true) :
    a.isRegular = true ∧ (∀ b ∈ rest, b.name ≠ a.name) ∧ areRegular rest = true := by
  rw [areRegular, Bool.and_eq_true, Bool.and_eq_true, List.all_eq_true] at h
  exact ⟨h.1.1, fun b hb => by simpa using h.1.2 b hb, h.2⟩

end Attribute

/-! ## Ways -/

theorem locationParts_ne_nil (s : List Char) : locationParts s ≠ [] := by
  cases s with
  | nil => simp [locationParts]
  | cons c rest =>
    rw [locationParts]
    split
    · simp
    · split <;> simp

/-- A separator ends a part. -/
theorem locationParts_append_cons {separator : Char} (h : separator = '.' ∨ separator = '+')
    (s rest : List Char) :
    locationParts (s ++ separator :: rest) = locationParts s ++ locationParts rest := by
  induction s with
  | nil => simp [locationParts, h]
  | cons c s ih =>
    rw [List.cons_append, locationParts, locationParts, ih]
    split
    · rfl
    · cases hparts : locationParts s with
      | nil => exact absurd hparts (locationParts_ne_nil s)
      | cons part parts => rfl

theorem locationParts_of_isSingleName {name : String} (h : isSingleName name = true) :
    locationParts name.toList = [name.toList] := by
  have hparts : ∀ s : List Char, (s.all fun c => c != '.' && c != '+') = true →
      locationParts s = [s] := by
    intro s hs
    induction s with
    | nil => rfl
    | cons c s ih =>
      rw [List.all_cons, Bool.and_eq_true] at hs
      have hc : ¬ (c = '.' ∨ c = '+') := by simpa using hs.1
      rw [locationParts, if_neg hc, ih hs.2]
  exact hparts name.toList h

/-- A location in front of a name: its parts are names on the way, and what follows begins a part
of its own. -/
def IsWay (way : String) (names : List String) : Prop :=
  ∀ rest, locationParts (way.toList ++ rest) = names.map String.toList ++ locationParts rest

theorem isWay_empty : IsWay "" [] := fun _ => rfl

theorem IsWay.step {way name : String} {names : List String} (h : IsWay way names)
    (hname : isSingleName name = true) {separator : String}
    (hseparator : separator = "." ∨ separator = "+") :
    IsWay (way ++ name ++ separator) (names ++ [name]) := by
  intro rest
  obtain ⟨c, hc, hsign⟩ : ∃ c, separator.toList = [c] ∧ (c = '.' ∨ c = '+') := by
    rcases hseparator with rfl | rfl
    · exact ⟨'.', rfl, .inl rfl⟩
    · exact ⟨'+', rfl, .inr rfl⟩
  rw [String.toList_append, String.toList_append, hc, List.append_assoc, List.append_assoc,
    List.singleton_append, h, locationParts_append_cons hsign, locationParts_of_isSingleName hname]
  simp

/-- The place of a name at the end of a way. -/
theorem IsWay.splitLocation_append {way name : String} {names : List String} (h : IsWay way names)
    (hname : isSingleName name = true) : splitLocation (way ++ name) = (names, name) := by
  have hparts : (locationParts (way ++ name).toList).map String.ofList = names ++ [name] := by
    rw [String.toList_append, h, locationParts_of_isSingleName hname]
    simp
  rw [splitLocation, hparts, List.dropLast_concat, List.getLast?_concat, Option.getD_some]

/-! ## Sites -/

/-- The location of a site leads, from the record at the end of a way of names, to a slot that the
declaration of the site describes.  `rel` is the rest of the way. -/
structure Site.LeadsTo (s : Site) (names : List String) (attributes : List (Attribute Slot))
    (rel : List String) (name : String) (slot : Slot) : Prop where
  place : splitLocation s.location = (names ++ rel, name)
  found : ∀ info, Shape.at? ⟨info, attributes⟩ rel name = some slot
  first : ∃ a ∈ attributes, a.name = rel.headD name
  describes : s.declaration.describes slot = true

/-- The location of a site resolves among some attributes. -/
def Site.Resolves (s : Site) (names : List String) (attributes : List (Attribute Slot)) : Prop :=
  ∃ rel name slot, s.LeadsTo names attributes rel name slot

theorem Shape.at?_cons_of_eq {α : Type} {info : TypeInfo} {a : Attribute α}
    {rest : List (Attribute α)} {way : List String} {name : String} (h : a.name = way.headD name) :
    (⟨info, a :: rest⟩ : Shape α).at? way name = (⟨info, [a]⟩ : Shape α).at? way name := by
  cases way <;> simp_all [at?, child?, find?]

theorem Shape.at?_cons_of_ne {α : Type} {info : TypeInfo} {a : Attribute α}
    {rest : List (Attribute α)} {way : List String} {name : String} (h : a.name ≠ way.headD name) :
    (⟨info, a :: rest⟩ : Shape α).at? way name = (⟨info, rest⟩ : Shape α).at? way name := by
  cases way <;> simp_all [at?, child?, find?]

namespace Site

variable {s s' : Site} {names : List String} {a : Attribute Slot} {rest : List (Attribute Slot)}

theorem Resolves.head (h : s.Resolves names [a]) : s.Resolves names (a :: rest) := by
  obtain ⟨rel, name, slot, hplace, hfound, ⟨b, hb, hfirst⟩, hdescribes⟩ := h
  obtain rfl := List.mem_singleton.1 hb
  refine ⟨rel, name, slot, hplace, fun info => ?_, ⟨b, List.mem_cons_self, hfirst⟩, hdescribes⟩
  rw [Shape.at?_cons_of_eq hfirst, hfound]

theorem Resolves.tail (hne : ∀ b ∈ rest, b.name ≠ a.name) (h : s.Resolves names rest) :
    s.Resolves names (a :: rest) := by
  obtain ⟨rel, name, slot, hplace, hfound, ⟨b, hb, hfirst⟩, hdescribes⟩ := h
  have hskip : a.name ≠ rel.headD name := fun heq => hne b hb (hfirst.trans heq.symm)
  refine ⟨rel, name, slot, hplace, fun info => ?_, ⟨b, List.mem_cons_of_mem _ hb, hfirst⟩,
    hdescribes⟩
  rw [Shape.at?_cons_of_ne hskip, hfound]

theorem Resolves.nested {d : Declaration} {n : Nesting} {info : TypeInfo}
    {attributes : List (Attribute Slot)} (h : s.Resolves (names ++ [d.name]) attributes) :
    s.Resolves names [.nested d n info attributes] := by
  obtain ⟨rel, name, slot, hplace, hfound, -, hdescribes⟩ := h
  refine ⟨d.name :: rel, name, slot, ?_, fun _ => ?_, ⟨_, List.mem_singleton_self _, rfl⟩,
    hdescribes⟩
  · rw [hplace, List.append_assoc, List.singleton_append]
  · simpa [Shape.at?, Shape.child?, Shape.find?, Attribute.name, Attribute.declaration,
      Attribute.child?] using hfound info

/-- Sites below attributes of different names have different places. -/
theorem Resolves.place_ne (hne : ∀ b ∈ rest, b.name ≠ a.name) (h : s.Resolves names [a])
    (h' : s'.Resolves names rest) : splitLocation s.location ≠ splitLocation s'.location := by
  obtain ⟨rel, name, slot, hplace, -, ⟨b, hb, hfirst⟩, -⟩ := h
  obtain ⟨rel', name', slot', hplace', -, ⟨b', hb', hfirst'⟩, -⟩ := h'
  obtain rfl := List.mem_singleton.1 hb
  rw [hplace, hplace']
  intro heq
  obtain ⟨hrel, rfl⟩ := Prod.mk.inj heq
  obtain rfl := List.append_cancel_left hrel
  exact hne b' hb' (hfirst'.trans hfirst.symm)

end Site

mutual

/-- The location of every site of a regular attribute resolves. -/
theorem resolves_of_mem_siteOf {a : Attribute Slot} {way : String} {names : List String}
    {isNested : Bool} {s : Site} (ha : a.isRegular = true) (hway : IsWay way names)
    (hs : s ∈ siteOf way isNested a) : s.Resolves names [a] := by
  cases a with
  | plain d slot =>
    rw [siteOf] at hs
    rw [Attribute.isRegular, Bool.and_eq_true] at ha
    split at hs
    · obtain rfl := List.mem_singleton.1 hs
      refine ⟨[], d.name, slot, ?_, fun _ => ?_, ⟨_, List.mem_singleton_self _, rfl⟩, ha.2⟩
      · rw [hway.splitLocation_append ha.1, List.append_nil]
      · simp [Shape.at?, Shape.find?, Attribute.name, Attribute.declaration, Attribute.content?]
    · cases hs
  | nested d n info attributes =>
    rw [Attribute.isRegular, Bool.and_eq_true] at ha
    cases n with
    | embedded =>
      rw [siteOf] at hs
      split at hs
      · exact (resolves_of_mem_sites ha.2 (hway.step ha.1 (.inr rfl)) hs).nested
      · cases hs
    | named =>
      rw [siteOf] at hs
      split at hs
      · exact (resolves_of_mem_sites ha.2 (hway.step ha.1 (.inl rfl)) hs).nested
      · cases hs

/-- The location of every site of regular attributes resolves. -/
theorem resolves_of_mem_sites {attributes : List (Attribute Slot)} {way : String}
    {names : List String} {isNested : Bool} {s : Site}
    (hattributes : Attribute.areRegular attributes = true) (hway : IsWay way names)
    (hs : s ∈ sites way isNested attributes) : s.Resolves names attributes := by
  cases attributes with
  | nil => cases hs
  | cons a rest =>
    obtain ⟨ha, hne, hrest⟩ := Attribute.areRegular_cons hattributes
    rw [sites, List.mem_append] at hs
    rcases hs with hs | hs
    · exact (resolves_of_mem_siteOf ha hway hs).head
    · exact (resolves_of_mem_sites hrest hway hs).tail hne

end

/-- Two sites with different places. -/
def Site.Apart (s s' : Site) : Prop := splitLocation s.location ≠ splitLocation s'.location

mutual

theorem pairwise_siteOf {a : Attribute Slot} {way : String} {names : List String}
    {isNested : Bool} (ha : a.isRegular = true) (hway : IsWay way names) :
    (siteOf way isNested a).Pairwise Site.Apart := by
  cases a with
  | plain d slot =>
    rw [siteOf]
    split
    · exact List.pairwise_singleton _ _
    · exact List.Pairwise.nil
  | nested d n info attributes =>
    rw [Attribute.isRegular, Bool.and_eq_true] at ha
    cases n with
    | embedded =>
      rw [siteOf]
      split
      · exact pairwise_sites ha.2 (hway.step ha.1 (.inr rfl))
      · exact List.Pairwise.nil
    | named =>
      rw [siteOf]
      split
      · exact pairwise_sites ha.2 (hway.step ha.1 (.inl rfl))
      · exact List.Pairwise.nil

/-- Different sites of regular attributes have different places. -/
theorem pairwise_sites {attributes : List (Attribute Slot)} {way : String} {names : List String}
    {isNested : Bool} (hattributes : Attribute.areRegular attributes = true)
    (hway : IsWay way names) : (sites way isNested attributes).Pairwise Site.Apart := by
  cases attributes with
  | nil => exact List.Pairwise.nil
  | cons a rest =>
    obtain ⟨ha, hne, hrest⟩ := Attribute.areRegular_cons hattributes
    rw [sites, List.pairwise_append]
    refine ⟨pairwise_siteOf ha hway, pairwise_sites hrest hway, fun s hs s' hs' => ?_⟩
    exact (resolves_of_mem_siteOf ha hway hs).place_ne hne (resolves_of_mem_sites hrest hway hs')

end

end FieldRules
