import FieldRules.Proofs.Dict
import FieldRules.Proofs.Record.Chains

/-!
# What a snapshot shows

A snapshot is a map of the exported attributes, and the map of each nested record inside it is again
one.  For regular records it has what is read at locations: a chain of exported attributes leads
through the maps to the value that is read where the names are joined to a location.  What is not
exported, or is below something that is not, has no part in it; so records that differ in nothing
else have the same snapshot.

## Main definitions

* `Value.at?` — what a path of keys leads to, through maps.
* `Value.HasKeys` — a map with the names of the exported attributes.
* `Attribute.shownAll` — attributes without those that are not exported.

## Main statements

* `Record.assemble_views` — the entries of a snapshot.
* `Record.at?_assemble_of_standsIn` — what a chain of exported attributes leads to.
* `Record.assemble_shownAll` — what is not exported has no part in a snapshot.
* `Record.snapshot_shows` — a snapshot shows what is exported, as it is read, and nothing else.
-/

namespace FieldRules

/-! ## Maps -/

/-- What a path of keys leads to, through maps. -/
def Value.at? : List String → Value → Option Value
  | [], v => some v
  | key :: path, .map entries => (Dict.find? entries key).bind (at? path)
  | _ :: _, _ => none

/-- A value is a map, and its keys are the names of the exported ones among some attributes. -/
def Value.HasKeys {α : Type} (v : Value) (attributes : List (Attribute α)) : Prop :=
  ∃ entries, v = .map entries ∧ Dict.Sorted entries ∧ ∀ name, name ∈ Dict.keys entries ↔
    ∃ a ∈ attributes, a.declaration.isExported = true ∧ a.name = name

/-! ## What is shown -/

mutual

/-- An attribute without what is not exported below it. -/
def Attribute.shown {α : Type} : Attribute α → Attribute α
  | .plain d content => .plain d content
  | .nested d n info attributes => .nested d n info (shownAll attributes)

/-- The exported ones among some attributes, without what is not exported below them. -/
def Attribute.shownAll {α : Type} : List (Attribute α) → List (Attribute α)
  | [] => []
  | a :: rest => if a.declaration.isExported then shown a :: shownAll rest else shownAll rest

end

namespace Attribute

variable {α : Type}

@[simp] theorem declaration_shown (a : Attribute α) : a.shown.declaration = a.declaration := by
  cases a <;> rfl

theorem names_shownAll_sublist (attributes : List (Attribute α)) :
    ((shownAll attributes).map name).Sublist (attributes.map name) := by
  induction attributes with
  | nil => exact .slnil
  | cons a rest ih =>
    rw [shownAll]
    split
    · rw [List.map_cons, List.map_cons, name, declaration_shown]
      exact ih.cons_cons _
    · exact ih.cons _

end Attribute

namespace Record

/-! ## Entries -/

/-- What an attribute contributes to a snapshot. -/
def shownAs? (a : Attribute Cell) : Option (String × Value) :=
  if a.declaration.isExported then some (a.name, (view a).reading.getD .null) else none

theorem views_eq_map (attributes : List (Attribute Cell)) :
    views attributes = attributes.map view := by
  induction attributes with
  | nil => rfl
  | cons a rest ih => rw [views, ih, List.map_cons]

@[simp] theorem declaration_view (a : Attribute Cell) : (view a).declaration = a.declaration := by
  cases a <;> rfl

/-- A view is of a nested record, whose snapshot it reads as, or it has no snapshot inside. -/
theorem view_value (a : Attribute Cell) :
    (if (view a).isNested then (view a).inner else (view a).reading) = (view a).reading := by
  cases a <;> rfl

variable {attributes : List (Attribute Cell)} {r r' : Record}

/-- Where names differ, the view of an attribute is found by its name. -/
theorem find?_views (h : (attributes.map Attribute.name).Nodup) {a : Attribute Cell}
    (ha : a ∈ attributes) :
    (views attributes).find? (fun w => w.declaration.name == a.name) = some (view a) := by
  have hviews : (fun w : View => w.declaration.name == a.name) ∘ view =
      fun b => b.name == a.name := by
    funext b
    rw [Function.comp_apply, declaration_view]
    rfl
  rw [views_eq_map, List.find?_map, hviews, Attribute.find?_of_mem h ha, Option.map_some]

/-- **The entries of a snapshot**, where names differ. -/
theorem assemble_views (h : (attributes.map Attribute.name).Nodup) :
    assemble (views attributes) = .map (Dict.ofList (attributes.filterMap shownAs?)) := by
  rw [assemble]
  refine congrArg (fun entries => Value.map (Dict.ofList entries)) ?_
  rw [views_eq_map, List.filterMap_map]
  refine List.filterMap_congr fun a ha => ?_
  have hfound := find?_views h ha
  rw [views_eq_map, Attribute.name] at hfound
  simp only [Function.comp_apply, declaration_view, hfound, Option.bind_some, view_value, shownAs?,
    Attribute.name]

theorem map_fst_entries (attributes : List (Attribute Cell)) :
    (attributes.filterMap shownAs?).map Prod.fst =
      (attributes.filter fun a => a.declaration.isExported).map Attribute.name := by
  induction attributes with
  | nil => rfl
  | cons a rest ih => cases ha : a.declaration.isExported <;> simp [shownAs?, ha, ih]

theorem nodup_entries (h : (attributes.map Attribute.name).Nodup) :
    ((attributes.filterMap shownAs?).map Prod.fst).Nodup := by
  rw [map_fst_entries]
  exact h.sublist (List.filter_sublist.map _)

/-- The keys of a snapshot are the names of the exported attributes. -/
theorem hasKeys_assemble (h : (attributes.map Attribute.name).Nodup) :
    (assemble (views attributes)).HasKeys attributes := by
  refine ⟨_, assemble_views h, Dict.Sorted.ofList _, fun name => ?_⟩
  rw [Dict.mem_keys_ofList, map_fst_entries]
  simp only [List.mem_map, List.mem_filter, and_assoc]

/-- An exported attribute that can be read has its value in the snapshot. -/
theorem at?_assemble (h : (attributes.map Attribute.name).Nodup) {a : Attribute Cell}
    (ha : a ∈ attributes) (hexported : a.declaration.isExported = true) {v : Value}
    (hv : (view a).reading = some v) (path : List String) :
    (assemble (views attributes)).at? (a.name :: path) = v.at? path := by
  have hentry : (a.name, v) ∈ attributes.filterMap shownAs? :=
    List.mem_filterMap.2 ⟨a, ha, by simp [shownAs?, hexported, hv]⟩
  rw [assemble_views h, Value.at?, Dict.find?_ofList_of_mem (nodup_entries h) hentry]
  rfl

/-! ## Chains -/

/-- An attribute of a regular record can be read, and a nested record reads as its snapshot. -/
theorem exists_reading {a : Attribute Cell} (ha : (a.map Cell.slot).isRegular = true) :
    ∃ v, (view a).reading = some v ∧
      ∀ d n info inner, a = .nested d n info inner → v.HasKeys inner := by
  cases a with
  | plain d cell =>
    rw [Attribute.map, Attribute.isRegular, Declaration.describes] at ha
    simp only [Bool.and_eq_true] at ha
    refine ⟨cell.slot.type.toValue cell.content, if_pos ha.2.1.1.1, ?_⟩
    rintro _ _ _ _ ⟨⟩
  | nested d n info attributes =>
    refine ⟨_, rfl, ?_⟩
    rintro _ _ _ _ ⟨⟩
    exact hasKeys_assemble (Attribute.nodup_names (Attribute.isRegular_nested ha).2)

/-- **What a chain of exported attributes leads to** in a snapshot is how the last of them reads. -/
theorem at?_assemble_of_standsIn {a : Attribute Cell} {above : List (Declaration × Nesting)}
    (h : Attribute.StandsIn above a attributes)
    (hregular : Attribute.areRegular (Attribute.mapAll Cell.slot attributes) = true)
    (habove : ∀ s ∈ above, s.1.isExported = true) (ha : a.declaration.isExported = true)
    {v : Value} (hv : (view a).reading = some v) :
    (assemble (views attributes)).at? (namesAlong above ++ [a.name]) = some v := by
  induction h with
  | here hmem => exact at?_assemble (Attribute.nodup_names hregular) hmem ha hv []
  | @inside a attributes inner d n info above hnested _ ih =>
    have hinner := Attribute.isRegular_nested (Attribute.isRegular_of_mem_mapAll hregular hnested)
    obtain ⟨hd, habove⟩ := List.forall_mem_cons.1 habove
    rw [namesAlong, List.map_cons, List.cons_append]
    exact (at?_assemble (Attribute.nodup_names hregular) hnested hd rfl _).trans
      (ih hinner.2 habove ha hv)

/-! ## What has no part in a snapshot -/

mutual

/-- An attribute reads as it does without what is not exported below it. -/
theorem reading_shown (a : Attribute Cell) (ha : (a.map Cell.slot).isRegular = true) :
    (view a.shown).reading = (view a).reading := by
  cases a with
  | plain d cell => rfl
  | nested d n info attributes =>
    exact congrArg some (assemble_shownAll attributes (Attribute.isRegular_nested ha).2)

/-- The entries of a snapshot are those without what is not exported. -/
theorem entries_shownAll (attributes : List (Attribute Cell))
    (h : Attribute.areRegular (Attribute.mapAll Cell.slot attributes) = true) :
    (Attribute.shownAll attributes).filterMap shownAs? = attributes.filterMap shownAs? := by
  cases attributes with
  | nil => rfl
  | cons a rest =>
    rw [Attribute.mapAll] at h
    obtain ⟨ha, -, hrest⟩ := Attribute.areRegular_cons h
    have hentry : shownAs? a.shown = shownAs? a := by
      rw [shownAs?, shownAs?, Attribute.name, Attribute.declaration_shown, reading_shown a ha]
      rfl
    rw [Attribute.shownAll]
    split
    · rw [List.filterMap_cons, List.filterMap_cons, hentry, entries_shownAll rest hrest]
    · next hhidden =>
      have hnone : shownAs? a = none := if_neg hhidden
      rw [entries_shownAll rest hrest, List.filterMap_cons_none hnone]

/-- What is not exported has no part in a snapshot. -/
theorem assemble_shownAll (attributes : List (Attribute Cell))
    (h : Attribute.areRegular (Attribute.mapAll Cell.slot attributes) = true) :
    assemble (views (Attribute.shownAll attributes)) = assemble (views attributes) := by
  -- names still differ where some of them have been left out
  have hnames := Attribute.nodup_names h
  rw [assemble_views hnames,
    assemble_views (hnames.sublist (Attribute.names_shownAll_sublist attributes)),
    entries_shownAll attributes h]

end

/-- **A snapshot shows what is exported, as it is read, and nothing else.**  Its keys are the names of
the exported attributes, and so it is in every nested record that a chain of exported attributes
leads to.  Such a chain leads to the value that is read at its names, joined to a location with any
separators.  Records that differ only in what is not exported, or below it, have the same
snapshot. -/
theorem snapshot_shows (hr : r.type.isRegular = true) :
    r.snapshot.HasKeys r.attributes ∧
      (∀ above a, Attribute.StandsIn above a r.attributes →
        (∀ s ∈ above, s.1.isExported = true) → a.declaration.isExported = true →
        ∃ v, r.snapshot.at? (namesAlong above ++ [a.name]) = some v ∧
          (∀ steps, steps.map Prod.fst = namesAlong above →
            r.readPath? (wayAlong steps ++ a.name) = some v) ∧
          ∀ d n info inner, a = .nested d n info inner → v.HasKeys inner) ∧
      ∀ r' : Record, r'.type.isRegular = true →
        Attribute.shownAll r.attributes = Attribute.shownAll r'.attributes →
        r.snapshot = r'.snapshot := by
  refine ⟨hasKeys_assemble (Attribute.nodup_names hr), fun above a hstands habove ha => ?_,
    fun r' hr' hshown => ?_⟩
  · obtain ⟨v, hv, hkeys⟩ := exists_reading (hstands.isRegular hr)
    refine ⟨v, at?_assemble_of_standsIn hstands hr habove ha hv, fun steps hsteps => ?_, hkeys⟩
    rw [readPath?_of_standsIn hr hstands hsteps, hv]
  · rw [snapshot, snapshot, ← assemble_shownAll r.attributes hr, hshown,
      assemble_shownAll r'.attributes hr']

/-- A dossier with a key that is not exported, a stamp with a pin that is not, and a vault that is
not; each of these three holds a given text. -/
def dossier (secret : String) : Record :=
  let text (s : String) : Cell := ⟨⟨.text, true, true⟩, s⟩
  let vault : Declaration := ⟨"vault", .record, false, false, []⟩
  let type : RecordType :=
    ⟨Reference.info "Dossier" [], [
      Reference.plain "title" .text [],
      Reference.unexported "key" .text,
      Reference.nested "stamp" .embedded ⟨Reference.info "Stamp" [],
        [Reference.plain "by" .text [], Reference.unexported "pin" .text]⟩,
      .nested vault .named (Reference.info "Vault" []) [Reference.plain "code" .text []]]⟩
  (((type.zero.put (text "eve") "by" ["stamp"]).put (text secret) "key" []).put
    (text secret) "pin" ["stamp"]).put (text secret) "code" ["vault"]

/-- What a dossier hides can be read at its location, and has no part in the snapshot; who stamped it
is found in the snapshot as it is read. -/
theorem snapshot_shows_dossier :
    (dossier "a").type.isRegular = true ∧ (dossier "b").type.isRegular = true ∧
      (dossier "a").readPath? "vault.code" = some (.text "a") ∧
      (dossier "b").readPath? "vault.code" = some (.text "b") ∧
      (dossier "a").snapshot = (dossier "b").snapshot ∧
      ∃ v, (dossier "a").snapshot.at? ["stamp", "by"] = some v ∧
        (dossier "a").readPath? "stamp+by" = some v ∧
        (dossier "a").readPath? "stamp.by" = some v ∧ v = .text "eve" := by
  have hregular : (dossier "a").type.isRegular = true := by decide
  obtain ⟨-, hchains, hsame⟩ := snapshot_shows hregular
  have hstands : Attribute.StandsIn
      [(⟨"stamp", .record, false, true, []⟩, .embedded)]
      (.plain ⟨"by", .text, false, true, []⟩ ⟨⟨.text, true, true⟩, "eve"⟩)
      (dossier "a").attributes :=
    .inside (.tail _ (.tail _ (.head _))) (.here (.head _))
  obtain ⟨v, hsnapshot, hread, -⟩ := hchains _ _ hstands (by decide) rfl
  have hplus : (dossier "a").readPath? "stamp+by" = some v := hread [("stamp", .embedded)] rfl
  have hdot : (dossier "a").readPath? "stamp.by" = some v := hread [("stamp", .named)] rfl
  refine ⟨hregular, by decide, rfl, rfl, hsame (dossier "b") (by decide) rfl, v, hsnapshot, hplus,
    hdot, ?_⟩
  have heve : (dossier "a").readPath? "stamp+by" = some (.text "eve") := rfl
  exact Option.some.inj (hplus.symm.trans heve)

end Record

end FieldRules
