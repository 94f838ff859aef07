import FieldRules.Proofs.Error
import FieldRules.Proofs.Except
import FieldRules.Proofs.Record.Leaves
import Mathlib.Data.List.Induction

/-!
# What the walk comes to

The walk goes from site to site with what it has kept, an index of external names, and what has been
wrong.  What it has come to after some sites can be told from the sites alone.  It has kept all of
them but the flat ones whose names an earlier flat one carries; in its index each name belongs to
the first flat field that carries it, else to the first nested one; and it has collected the errors
of what it has kept, in order.

## Main definitions

* `Site.kept` — the sites that the walk keeps.
* `FieldTable.owner?` — the field that a name belongs to among some fields.
* `FieldTable.Walk.Tells` — what the walk has come to after some sites.
* `FieldTable.faults` — everything that is wrong with the tags of a type.

## Main statements

* `FieldTable.Walk.Tells.visit` — one more site.
* `FieldTable.Walk.tells_visitAll` — the whole walk.
* `FieldTable.build_eq` — the table that is built, or everything that is wrong.
* `FieldTable.fields_of_build`, `FieldTable.field?_of_build` — the fields of a table that is built,
  and to which of them a name belongs.
-/

namespace FieldRules

/-! ## The sites that are kept -/

namespace Site

/-- Whether a site is flat and carries an external name. -/
def isFlatNamed (name : String) (s : Site) : Bool :=
  !s.isNested && s.declaration.externalName == name

/-- Whether a site is kept after those before it: a nested one always is, and a flat one unless an
earlier flat one carries its name. -/
def isKeptAfter (before : List Site) (s : Site) : Bool :=
  s.isNested || !before.any (isFlatNamed s.declaration.externalName)

/-- The sites that are kept, each after all those before it. -/
def kept (all : List Site) : List Site :=
  (all.zipIdx.filter fun p => p.1.isKeptAfter (all.take p.2)).map Prod.fst

theorem kept_concat (all : List Site) (s : Site) :
    kept (all ++ [s]) = kept all ++ if s.isKeptAfter all then [s] else [] := by
  have hbefore : all.zipIdx.filter (fun p => p.1.isKeptAfter ((all ++ [s]).take p.2)) =
      all.zipIdx.filter fun p => p.1.isKeptAfter (all.take p.2) := by
    refine List.filter_congr fun p hp => ?_
    have hlt : p.2 < all.length := List.snd_lt_of_mem_zipIdx hp
    rw [List.take_append_of_le_length (Nat.le_of_lt hlt)]
  rw [kept, List.zipIdx_append, List.filter_append, hbefore, List.map_append, kept]
  cases h : s.isKeptAfter all <;> simp [h]

theorem kept_sublist (all : List Site) : (kept all).Sublist all := by
  have h : ((all.zipIdx.filter fun p => p.1.isKeptAfter (all.take p.2)).map Prod.fst).Sublist
      (all.zipIdx.map Prod.fst) := List.filter_sublist.map Prod.fst
  rwa [List.zipIdx_map_fst] at h

/-- A name that a flat site carries is carried by a flat site that is kept. -/
theorem any_kept (all : List Site) (name : String) :
    (kept all).any (isFlatNamed name) = all.any (isFlatNamed name) := by
  induction all using List.reverseRecOn with
  | nil => rfl
  | append_singleton all s ih =>
    rw [kept_concat, List.any_append, List.any_append, ih]
    cases hkept : s.isKeptAfter all with
    | true => simp
    | false =>
      -- the name of a site that is left out is carried by an earlier one
      simp only [isKeptAfter, Bool.or_eq_false_iff, Bool.not_eq_false'] at hkept
      by_cases hname : s.declaration.externalName = name
      · rw [hname] at hkept
        simp [hkept.2]
      · simp [isFlatNamed, hname]

end Site

namespace FieldTable

variable {registry : Registry} {tools : Dict Tool} {t : RecordType} {table : FieldTable}

/-! ## Fields by their sites -/

/-- The entry of a site. -/
def entryAt (registry : Registry) (tools : Dict Tool) (s : Site) : Entry :=
  (entryOf registry tools s).1

/-- What is wrong with the tags of a site. -/
def errorsAt (registry : Registry) (tools : Dict Tool) (s : Site) : List Error :=
  (entryOf registry tools s).2

/-- Only its mask and whether it is provided are not known of a field before its access tag is
read. -/
theorem fieldOf_eq (registry : Registry) (s : Site) :
    (fieldOf registry s).1 =
      { bareField s with
        access := (fieldOf registry s).1.access
        isProvided := (fieldOf registry s).1.isProvided } := by
  simp only [fieldOf]
  split
  · rfl
  · split <;> rfl

@[simp] theorem location_fieldOf (registry : Registry) (s : Site) :
    (fieldOf registry s).1.location = s.location := by
  rw [fieldOf_eq]
  rfl

@[simp] theorem externalName_entryAt (registry : Registry) (tools : Dict Tool) (s : Site) :
    (entryAt registry tools s).field.externalName = s.declaration.externalName := by
  change (fieldOf registry s).1.externalName = _
  rw [fieldOf_eq]
  rfl

@[simp] theorem isNested_entryAt (registry : Registry) (tools : Dict Tool) (s : Site) :
    (entryAt registry tools s).field.isNested = s.isNested := by
  change (fieldOf registry s).1.isNested = _
  rw [fieldOf_eq]
  rfl

/-- What is wrong with the tags of a field is told of that field. -/
theorem exists_of_mem_bindingsOf {field : Field} {d : Declaration} {e : Error}
    (he : e ∈ (bindingsOf registry field d tools).2) : ∃ source, e = .field field.location source := by
  induction tools with
  | nil => cases he
  | cons entry rest ih =>
    obtain ⟨key, tool⟩ := entry
    rw [bindingsOf] at he
    cases happlier : tool.applier registry field (d.tag? key) with
    | ok applier? => cases applier? <;> simp only [happlier] at he <;> exact ih he
    | error source =>
      simp only [happlier, List.mem_cons] at he
      rcases he with rfl | he
      · exact ⟨source, rfl⟩
      · exact ih he

theorem exists_of_mem_errorsAt {s : Site} {e : Error} (he : e ∈ errorsAt registry tools s) :
    ∃ source, e = .field s.location source := by
  rw [errorsAt, entryOf, List.mem_append] at he
  rcases he with he | he
  · simp only [fieldOf] at he
    split at he
    · cases he
    · split at he
      · cases he
      · exact ⟨_, List.mem_singleton.1 he⟩
  · obtain ⟨source, rfl⟩ := exists_of_mem_bindingsOf he
    exact ⟨source, by rw [location_fieldOf]⟩

/-! ## The owners of names -/

/-- The field that an external name belongs to among some fields: the first flat one that carries
it, else the first nested one. -/
def owner? (fields : List Field) (name : String) : Option Field :=
  (fields.find? fun f => f.externalName == name && !f.isNested).or
    (fields.find? fun f => f.externalName == name && f.isNested)

/-- Whether the next field is given a name that it carries, by whether the field that the name
belongs to is nested. -/
def takesName (ownerIsNested? : Option Bool) (isNested : Bool) : Bool :=
  match ownerIsNested?, isNested with
  | none, _ => true
  | some true, false => true
  | _, _ => false

theorem owner?_concat (fields : List Field) (f : Field) (name : String) :
    owner? (fields ++ [f]) name =
      if f.externalName = name ∧
          takesName ((owner? fields name).map Field.isNested) f.isNested = true then some f
      else owner? fields name := by
  by_cases hname : f.externalName = name
  · cases hflat : fields.find? fun f => f.externalName == name && !f.isNested with
    | some g =>
      have hg := List.find?_some hflat
      simp only [Bool.and_eq_true, Bool.not_eq_true'] at hg
      simp [owner?, List.find?_append, hflat, takesName, hg.2]
    | none =>
      cases hnested : fields.find? fun f => f.externalName == name && f.isNested with
      | some g =>
        have hg := List.find?_some hnested
        simp only [Bool.and_eq_true] at hg
        cases hf : f.isNested <;>
          simp [owner?, List.find?_append, hflat, hnested, takesName, hname, hg.2, hf]
      | none =>
        cases hf : f.isNested <;>
          simp [owner?, List.find?_append, hflat, hnested, takesName, hname, hf]
  · simp [owner?, List.find?_append, hname]

/-- A name belongs to a flat field exactly when some flat field carries it. -/
theorem owner?_isFlat_iff (fields : List Field) (name : String) :
    (owner? fields name).map Field.isNested = some false ↔
      (fields.any fun f => f.externalName == name && !f.isNested) = true := by
  rw [owner?]
  cases hflat : fields.find? fun f => f.externalName == name && !f.isNested with
  | some g =>
    have hg := List.find?_some hflat
    simp only [Bool.and_eq_true, Bool.not_eq_true'] at hg
    have hany : (fields.any fun f => f.externalName == name && !f.isNested) = true :=
      List.any_eq_true.2 ⟨g, List.mem_of_find?_eq_some hflat, by simp [hg.1, hg.2]⟩
    simp [hg.2, hany]
  | none =>
    have hnone : (fields.any fun f => f.externalName == name && !f.isNested) = false := by
      rw [← Bool.not_eq_true, List.any_eq_true]
      rintro ⟨g, hg, hcarries⟩
      exact List.find?_eq_none.1 hflat g hg hcarries
    rw [hnone, Option.none_or]
    cases hnested : fields.find? fun f => f.externalName == name && f.isNested with
    | some g =>
      have hg := List.find?_some hnested
      simp only [Bool.and_eq_true] at hg
      simp [hg.2]
    | none => simp

/-! ## The walk -/

namespace Walk

variable {all : List Site} {w : Walk}

/-- The fields that the walk has kept. -/
def fields (w : Walk) : List Field := w.entries.map Entry.field

/-- What the walk has come to after some sites. -/
structure Tells (registry : Registry) (tools : Dict Tool) (all : List Site) (w : Walk) : Prop where
  entries : w.entries = (Site.kept all).map (entryAt registry tools)
  errors : w.errors.errors = (Site.kept all).flatMap (errorsAt registry tools)
  /-- The index finds the field that a name belongs to. -/
  owner : ∀ name, ((w.index.find? name).bind fun i => w.fields[i]?) = owner? w.fields name

theorem ownerIsNested?_eq (w : Walk) (name : String) :
    w.ownerIsNested? name =
      ((w.index.find? name).bind fun i => w.fields[i]?).map Field.isNested := by
  rw [ownerIsNested?]
  cases w.index.find? name with
  | none => rfl
  | some i => cases h : w.entries[i]? <;> simp [Walk.fields, h]

/-- What the index finds is found also when there is a field more. -/
theorem bind_index_append (w : Walk) (f : Field) (name : String) :
    ((w.index.find? name).bind fun i => (w.fields ++ [f])[i]?) =
      (w.index.find? name).bind fun i => w.fields[i]? := by
  cases hi : w.index.find? name with
  | none => rfl
  | some i =>
    obtain ⟨e, he, -⟩ := w.isIndex name i hi
    have hlt : i < w.fields.length := by
      rw [Walk.fields, List.length_map]
      exact (List.getElem?_eq_some_iff.1 he).1
    rw [Option.bind_some, Option.bind_some, List.getElem?_append_left hlt]

/-- The index finds the next field by the name that it is given. -/
theorem bind_index_insert (w : Walk) (f : Field) (name : String) :
    (((w.index.insert f.externalName w.entries.length).find? name).bind fun i =>
        (w.fields ++ [f])[i]?) =
      if f.externalName = name then some f
      else (w.index.find? name).bind fun i => w.fields[i]? := by
  have hlength : w.entries.length = w.fields.length := (List.length_map _).symm
  rw [Dict.find?_insert]
  split
  · rw [Option.bind_some, hlength, List.getElem?_concat_length]
  · exact bind_index_append w f name

/-- What is wrong with the tags of a site is added to the errors. -/
theorem foldl_push_errorsAt (b : ErrorBatch) (s : Site) :
    (errorsAt registry tools s).foldl ErrorBatch.push b =
      ⟨b.errors ++ errorsAt registry tools s⟩ := by
  refine ErrorBatch.foldl_push_of_isBatch (fun e he => ?_) b
  obtain ⟨source, rfl⟩ := exists_of_mem_errorsAt he
  rfl

/-- A site is kept with an index in which the names have their owners. -/
theorem Tells.keep (h : w.Tells registry tools all) {s : Site} (hkept : s.isKeptAfter all = true)
    {index : Dict Nat} (hindex : IsIndex index (w.entries ++ [entryAt registry tools s]))
    (howner : ∀ name,
      ((index.find? name).bind fun i => (w.fields ++ [(entryAt registry tools s).field])[i]?) =
        owner? (w.fields ++ [(entryAt registry tools s).field]) name) :
    (w.keep (entryOf registry tools s) index hindex).Tells registry tools (all ++ [s]) := by
  have hsites : Site.kept (all ++ [s]) = Site.kept all ++ [s] := by
    rw [Site.kept_concat, if_pos hkept]
  constructor
  · rw [hsites, List.map_append, ← h.entries]
    rfl
  · change ((errorsAt registry tools s).foldl ErrorBatch.push w.errors).errors = _
    rw [foldl_push_errorsAt, hsites, List.flatMap_append, ← h.errors]
    simp
  · intro name
    have hfields : (w.keep (entryOf registry tools s) index hindex).fields =
        w.fields ++ [(entryAt registry tools s).field] := by
      simp [Walk.fields, Walk.keep, entryAt]
    rw [hfields]
    exact howner name

/-- A name belongs to a flat field exactly when a flat site carries it. -/
theorem Tells.ownerIsNested?_iff (h : w.Tells registry tools all) (name : String) :
    w.ownerIsNested? name = some false ↔ all.any (Site.isFlatNamed name) = true := by
  have hsite : (fun f : Field => f.externalName == name && !f.isNested) ∘ Entry.field ∘
      entryAt registry tools = Site.isFlatNamed name := by
    funext s
    simp only [Function.comp_apply, externalName_entryAt, isNested_entryAt, Site.isFlatNamed]
    rw [Bool.and_comm]
  rw [ownerIsNested?_eq, h.owner, owner?_isFlat_iff, Walk.fields, h.entries, List.map_map,
    List.any_map, hsite, Site.any_kept]

/-- Whether the next field is given its name can be told from where the walk stands. -/
theorem Tells.takesName_eq (h : w.Tells registry tools all) (name : String) (isNested : Bool) :
    takesName ((owner? w.fields name).map Field.isNested) isNested =
      takesName (w.ownerIsNested? name) isNested := by
  rw [ownerIsNested?_eq, h.owner]

/-- A flat site is left out where its name belongs to a flat field. -/
theorem Tells.leave (h : w.Tells registry tools all) {s : Site}
    (hsome : w.ownerIsNested? s.declaration.externalName = some false) (hs : s.isNested = false) :
    w.Tells registry tools (all ++ [s]) := by
  have hleft : Site.kept (all ++ [s]) = Site.kept all := by
    rw [Site.kept_concat, Site.isKeptAfter, hs, (h.ownerIsNested?_iff _).1 hsome]
    simp
  exact ⟨hleft ▸ h.entries, hleft ▸ h.errors, h.owner⟩

/-- A nested site is kept without its name where that belongs to a field. -/
theorem Tells.keep_unnamed (h : w.Tells registry tools all) {s : Site} {b : Bool}
    (hsome : w.ownerIsNested? s.declaration.externalName = some b) (hs : s.isNested = true)
    (hindex : IsIndex w.index (w.entries ++ [entryAt registry tools s])) :
    (w.keep (entryOf registry tools s) w.index hindex).Tells registry tools (all ++ [s]) := by
  refine h.keep (by simp [Site.isKeptAfter, hs]) hindex fun name => ?_
  rw [bind_index_append, h.owner, owner?_concat, h.takesName_eq, externalName_entryAt,
    isNested_entryAt, if_neg]
  rintro ⟨rfl, htakes⟩
  rw [hsome, hs] at htakes
  cases b <;> cases htakes

/-- A site that is given its name is kept with it. -/
theorem Tells.keep_named (h : w.Tells registry tools all) {s : Site}
    (htakes : takesName (w.ownerIsNested? s.declaration.externalName) s.isNested = true)
    (hindex : IsIndex
      (w.index.insert (entryAt registry tools s).field.externalName w.entries.length)
      (w.entries ++ [entryAt registry tools s])) :
    (w.keep (entryOf registry tools s) _ hindex).Tells registry tools (all ++ [s]) := by
  refine h.keep ?_ hindex fun name => ?_
  · have hnone : w.ownerIsNested? s.declaration.externalName = some false → s.isNested = true := by
      intro hsome
      rw [hsome] at htakes
      cases htakes
    rw [Site.isKeptAfter, Bool.or_eq_true, Bool.not_eq_true', ← Bool.not_eq_true,
      ← h.ownerIsNested?_iff]
    exact (em _).imp hnone id
  · rw [bind_index_insert, h.owner, owner?_concat, h.takesName_eq, externalName_entryAt,
      isNested_entryAt]
    by_cases hname : s.declaration.externalName = name
    · rw [← hname, htakes]
      simp
    · simp [hname]

/-- **One more site**: it is left out exactly when it is flat and its name belongs to a flat field
already, and the index gives it its name where it becomes the owner. -/
theorem Tells.visit (h : w.Tells registry tools all) (s : Site) :
    (w.visit registry tools s).Tells registry tools (all ++ [s]) := by
  have hname : (entryOf registry tools s).1.field.externalName = s.declaration.externalName :=
    externalName_entryAt registry tools s
  rw [Walk.visit]
  split
  · next hsome hs => exact h.leave (hname ▸ hsome) hs
  · next hsome hs => exact h.keep_unnamed (hname ▸ hsome) hs _
  · next hflat hnested =>
    rw [hname] at hflat hnested
    refine h.keep_named ?_ _
    cases hsome : w.ownerIsNested? s.declaration.externalName with
    | none => rfl
    | some b =>
      cases hs : s.isNested with
      | true => exact (hnested b hsome hs).elim
      | false =>
        cases b with
        | true => rfl
        | false => exact (hflat hsome hs).elim

/-- What the walk has come to when it is over. -/
theorem tells_visitAll (registry : Registry) (tools : Dict Tool) (all : List Site) :
    (visitAll registry tools all).Tells registry tools all := by
  induction all using List.reverseRecOn with
  | nil => exact ⟨rfl, rfl, fun _ => rfl⟩
  | append_singleton all s ih =>
    rw [visitAll, List.foldl_append]
    exact ih.visit s

end Walk

/-! ## Building -/

/-- The sites of the fields of a type: its exported leaves that are kept. -/
def fieldSites (t : RecordType) : List Site :=
  Site.kept ((t.leaves.filter Leaf.isExported).map Leaf.site)

/-- They are the sites that the walk keeps. -/
theorem fieldSites_eq (t : RecordType) :
    fieldSites t = Site.kept (sites "" false t.attributes) :=
  congrArg Site.kept (sites_eq List.all_nil t.attributes).symm

theorem fieldSites_sublist (t : RecordType) :
    (fieldSites t).Sublist (sites "" false t.attributes) :=
  fieldSites_eq t ▸ Site.kept_sublist _

/-- What is wrong with the number of ids of a type. -/
def idFaults (registry : Registry) (t : RecordType) : List Error :=
  idErrors registry t.info.name
    (((fieldSites t).map fun s => (fieldOf registry s).1).filter Field.isId)

/-- Everything that is wrong with the tags of a type. -/
def faults (registry : Registry) (tools : Dict Tool) (t : RecordType) : List Error :=
  (fieldSites t).flatMap (errorsAt registry tools) ++ idFaults registry t

/-- The walk over the sites of a type. -/
def walkOf (registry : Registry) (tools : Dict Tool) (t : RecordType) : Walk :=
  Walk.visitAll registry tools (sites "" false t.attributes)

theorem tells_walkOf (registry : Registry) (tools : Dict Tool) (t : RecordType) :
    (walkOf registry tools t).Tells registry tools (sites "" false t.attributes) :=
  Walk.tells_visitAll registry tools _

theorem entries_walkOf (registry : Registry) (tools : Dict Tool) (t : RecordType) :
    (walkOf registry tools t).entries = (fieldSites t).map (entryAt registry tools) := by
  rw [(tells_walkOf registry tools t).entries, fieldSites_eq]

theorem fields_walkOf (registry : Registry) (tools : Dict Tool) (t : RecordType) :
    (walkOf registry tools t).fields = (fieldSites t).map fun s => (fieldOf registry s).1 := by
  rw [Walk.fields, entries_walkOf, List.map_map]
  rfl

/-- What is wrong with the number of ids is told of the type. -/
theorem exists_of_mem_idErrors {typeName : String} {ids : List Field} {e : Error}
    (he : e ∈ idErrors registry typeName ids) : ∃ message, e = .configuration message := by
  rw [idErrors.eq_def] at he
  split at he
  · split at he
    · exact ⟨_, List.mem_singleton.1 he⟩
    · cases he
  · cases he
  · exact ⟨_, List.mem_singleton.1 he⟩

/-- A table is built by the walk when nothing is wrong; else everything that is wrong is told. -/
theorem build_eq (registry : Registry) (tools : Dict Tool) (t : RecordType) :
    build registry tools t = (ErrorBatch.result ⟨faults registry tools t⟩).map fun _ =>
      ⟨t.info.name, (walkOf registry tools t).entries, (walkOf registry tools t).index,
        only? ((walkOf registry tools t).fields.filter Field.isId),
        (walkOf registry tools t).isIndex⟩ := by
  have herrors : (idErrors registry t.info.name
      ((walkOf registry tools t).fields.filter Field.isId)).foldl ErrorBatch.push
        (walkOf registry tools t).errors = ⟨faults registry tools t⟩ := by
    rw [ErrorBatch.foldl_push_of_isBatch, (tells_walkOf registry tools t).errors, fields_walkOf,
      ← fieldSites_eq]
    · rfl
    · intro e he
      obtain ⟨message, rfl⟩ := exists_of_mem_idErrors he
      rfl
  change (do
    ((idErrors registry t.info.name
      ((walkOf registry tools t).fields.filter Field.isId)).foldl ErrorBatch.push
        (walkOf registry tools t).errors).result
    .ok _) = _
  rw [herrors]
  cases (ErrorBatch.result ⟨faults registry tools t⟩) <;> rfl

/-- Nothing is wrong with the tags of a type whose table is built, and the table is where the walk
has come to. -/
theorem of_build (h : build registry tools t = .ok table) :
    faults registry tools t = [] ∧ table.entries = (walkOf registry tools t).entries ∧
      table.index = (walkOf registry tools t).index := by
  rw [build_eq, map_eq_ok_iff] at h
  obtain ⟨⟨⟩, hresult, rfl⟩ := h
  exact ⟨ErrorBatch.result_eq_ok_iff.1 hresult, rfl, rfl⟩

/-- The table has the entries of the sites that the walk keeps. -/
theorem entries_of_build (h : build registry tools t = .ok table) :
    table.entries = (fieldSites t).map (entryAt registry tools) := by
  rw [(of_build h).2.1, entries_walkOf]

theorem fields_of_build (h : build registry tools t = .ok table) :
    table.fields = (fieldSites t).map fun s => (fieldOf registry s).1 := by
  rw [fields, (of_build h).2.1, ← fields_walkOf registry tools t]
  rfl

/-- Nothing is wrong with the tags of a site that the walk keeps. -/
theorem errorsAt_of_build (h : build registry tools t = .ok table) {s : Site}
    (hs : s ∈ fieldSites t) : errorsAt registry tools s = [] := by
  have hfaults := (of_build h).1
  rw [faults, List.append_eq_nil_iff, List.flatMap_eq_nil_iff] at hfaults
  exact hfaults.1 s hs

/-- In a table that is built, a name belongs to the first flat field that carries it, else to the
first nested one. -/
theorem field?_of_build (h : build registry tools t = .ok table) (name : String) :
    table.field? name = owner? table.fields name := by
  have howner := (tells_walkOf registry tools t).owner name
  have hfields : table.fields = (walkOf registry tools t).fields := by
    rw [fields, (of_build h).2.1]
    rfl
  rw [field?, (of_build h).2.2, hfields]
  exact howner

end FieldTable

end FieldRules
