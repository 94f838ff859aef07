import FieldRules.Proofs.Catalog.Pass
import FieldRules.Proofs.FieldTable
import FieldRules.Reference

/-!
# Two ways to read a record

A principal can be shown the readable fields of a record in two ways: by the index of external
names, where each name belongs to one field, or by a pass of the access tool, which projects every
field that it has something to do with.  A field of a named nested record keeps what the tools do to
it also when its external name belongs to another field.  So the pass shows the last field of a name
that the principal may read, while the index shows the field that the name belongs to.

## Main definitions

* `Field.shown?` — what a field with an access tag shows to a principal.
* `FieldTable.lastShown?` — the last field of a name that shows something.
* `FieldTable.ofTagged` — the part of a projection whose names belong to fields with an access tag.

## Main statements

* `Catalog.projectReadable_eq`, `Catalog.projection_applyTools` — what each of the two ways shows.
* `Catalog.projection_eq_ofTagged` — the two ways agree where the last field shown is the one that
  the name belongs to.
-/

namespace FieldRules

namespace Context

@[simp] theorem access_project (ctx : Context) (name : String) (v : Value) :
    (ctx.project name v).access = ctx.access := by
  cases ctx
  rfl

@[simp] theorem principal_project (ctx : Context) (name : String) (v : Value) :
    (ctx.project name v).principal = ctx.principal := by
  cases ctx
  rfl

@[simp] theorem projection_project (ctx : Context) (name : String) (v : Value) :
    (ctx.project name v).projection = Dict.insert ctx.projection name v := by
  cases ctx
  rfl

end Context

/-- What a field with an access tag shows to a principal: its value, if the principal may read
it. -/
def Field.shown? (principals : Principals) (principal : Principal) (r : Record) (f : Field) :
    Option Value :=
  f.access.bind fun mask => if principals.allows mask principal .reading then f.read? r else none

namespace FieldTable

/-- The last field of a name, in the order of the walk, that shows something to a principal. -/
def lastShown? (table : FieldTable) (principals : Principals) (principal : Principal) (r : Record)
    (name : String) : Option Field :=
  table.fields.reverse.find? fun f =>
    f.externalName == name && (f.shown? principals principal r).isSome

/-- The part of a projection whose names belong to fields with an access tag. -/
def ofTagged (table : FieldTable) (d : Dict Value) : Dict Value :=
  List.filter (fun e => ((table.field? e.1).bind fun f => f.tag? Tool.accessName).isSome) d

/-- Where every field with an access tag owns its external name, the last field shown is the
owner. -/
theorem field?_of_lastShown? {table : FieldTable} {principals : Principals} {principal : Principal}
    {r : Record} (h : ∀ f ∈ table.fields, f.access.isSome → table.field? f.externalName = some f)
    {name : String} {f : Field} (hf : table.lastShown? principals principal r name = some f) :
    table.field? name = some f := by
  have hmem := List.mem_reverse.1 (List.mem_of_find?_eq_some hf)
  have hshown := List.find?_some hf
  rw [Bool.and_eq_true, beq_iff_eq] at hshown
  obtain ⟨hname, hshown⟩ := hshown
  have haccess : f.access.isSome = true := by
    cases hmask : f.access with
    | none => simp [Field.shown?, hmask] at hshown
    | some mask => rfl
  rw [← hname, h f hmem haccess]

theorem find?_ofTagged (table : FieldTable) (d : Dict Value) (name : String) :
    (table.ofTagged d).find? name =
      if ((table.field? name).bind fun f => f.tag? Tool.accessName).isSome then d.find? name
      else none :=
  Dict.find?_filter_key d (fun n => ((table.field? n).bind fun f => f.tag? Tool.accessName).isSome)
    name

end FieldTable

/-! ## Showing fields one after the other -/

/-- Projects a field if it shows something to the principal of the context. -/
def Context.reveal (principals : Principals) (r : Record) (ctx : Context) (f : Field) : Context :=
  match f.shown? principals ctx.principal r with
  | some v => ctx.project f.externalName v
  | none => ctx

namespace Context

variable {principals : Principals} {r : Record}

@[simp] theorem access_reveal (ctx : Context) (f : Field) :
    (ctx.reveal principals r f).access = ctx.access := by
  rw [Context.reveal]
  split <;> simp

@[simp] theorem principal_reveal (ctx : Context) (f : Field) :
    (ctx.reveal principals r f).principal = ctx.principal := by
  rw [Context.reveal]
  split <;> simp

theorem sorted_reveal {ctx : Context} (h : Dict.Sorted ctx.projection) (f : Field) :
    Dict.Sorted (ctx.reveal principals r f).projection := by
  rw [Context.reveal]
  split
  · rw [projection_project]
    exact h.insert _ _
  · exact h

theorem find?_projection_reveal (ctx : Context) (f : Field) (name : String) :
    (ctx.reveal principals r f).projection.find? name =
      (if f.externalName = name then f.shown? principals ctx.principal r else none).or
        (ctx.projection.find? name) := by
  rw [Context.reveal]
  cases f.shown? principals ctx.principal r with
  | none => simp
  | some v =>
    simp only [projection_project, Dict.find?_insert]
    by_cases hname : f.externalName = name <;> simp [hname]

theorem sorted_foldl_reveal {ctx : Context} (h : Dict.Sorted ctx.projection) (fields : List Field) :
    Dict.Sorted (fields.foldl (Context.reveal principals r) ctx).projection := by
  induction fields generalizing ctx with
  | nil => exact h
  | cons f rest ih => exact ih (sorted_reveal h f)

/-- Under each name the last field that shows something is projected. -/
theorem find?_projection_foldl_reveal (fields : List Field) (ctx : Context) (name : String) :
    (fields.foldl (Context.reveal principals r) ctx).projection.find? name =
      ((fields.reverse.find? fun f =>
        f.externalName == name && (f.shown? principals ctx.principal r).isSome).bind
          (Field.shown? principals ctx.principal r)).or (ctx.projection.find? name) := by
  induction fields generalizing ctx with
  | nil => simp
  | cons f rest ih =>
    rw [List.foldl_cons, ih, find?_projection_reveal, principal_reveal, List.reverse_cons,
      List.find?_append]
    cases hlater : rest.reverse.find? fun f =>
        f.externalName == name && (f.shown? principals ctx.principal r).isSome with
    | some g =>
      have hg := List.find?_some hlater
      rw [Bool.and_eq_true, Option.isSome_iff_exists] at hg
      obtain ⟨-, v, hv⟩ := hg
      simp [hv]
    | none =>
      by_cases hname : f.externalName = name
      · cases hshown : f.shown? principals ctx.principal r <;> simp [hname, hshown]
      · simp [hname]

end Context

namespace Catalog

/-! ## A reading pass -/

section Pass

variable {principals : Principals} {f : Field} {p : Pass}

/-- The binding of the access tool to a field, if it has one. -/
def accessBinding? (principals : Principals) (f : Field) : Option (Field × Applier) :=
  f.access.map fun mask => (f, Tool.accessApplier principals mask f.isProvided)

/-- What the access tool does to a field when only reading is asked for. -/
theorem accessApplier_of_reading {ctx : Context} (hkind : ctx.access = .reading)
    (principals : Principals) (mask : AccessMask) (isProvided : Bool) (f : Field) (r : Record) :
    Tool.accessApplier principals mask isProvided f r ctx =
      if principals.allows mask ctx.principal .reading then
        match f.read? r with
        | some v => ⟨r, ctx.project f.externalName v, .ok ()⟩
        | none => ⟨r, ctx, .error (.unprocessable f.location "field not found")⟩
      else ⟨r, ctx, .ok ()⟩ := by
  have hread : AccessKind.reading.isRead = true := rfl
  have hwrite : AccessKind.reading.isWrite = false := rfl
  cases hfound : f.read? r <;> simp [Tool.accessApplier, hkind, hread, hwrite, hfound]

/-- What one step of a reading pass does: it projects the field if that shows something, and leaves
the record as it is. -/
theorem Pass.step_access {binding : Field × Applier}
    (hbinding : accessBinding? principals f = some binding) (hkind : p.context.access = .reading) :
    (p.step binding).record = p.record ∧
      (p.step binding).context = p.context.reveal principals p.record f := by
  obtain ⟨mask, hmask, rfl⟩ := Option.map_eq_some_iff.1 hbinding
  rw [Context.reveal, Field.shown?, hmask, Option.bind_some]
  simp only [Pass.step, accessApplier_of_reading hkind]
  by_cases hallowed : principals.allows mask p.context.principal .reading = true
  · cases f.read? p.record <;> simp [hallowed]
  · simp [hallowed]

/-- A reading pass shows the fields one after the other and leaves the record as it is. -/
theorem Pass.foldl_access (fields : List Field) (hkind : p.context.access = .reading) :
    ((fields.filterMap (accessBinding? principals)).foldl Pass.step p).record = p.record ∧
      ((fields.filterMap (accessBinding? principals)).foldl Pass.step p).context =
        fields.foldl (Context.reveal principals p.record) p.context := by
  induction fields generalizing p with
  | nil => exact ⟨rfl, rfl⟩
  | cons f rest ih =>
    cases hbinding : accessBinding? principals f with
    | none =>
      have hreveal : p.context.reveal principals p.record f = p.context := by
        rw [Context.reveal, Field.shown?, Option.map_eq_none_iff.1 hbinding]
        rfl
      rw [List.filterMap_cons_none hbinding, List.foldl_cons, hreveal]
      exact ih hkind
    | some binding =>
      obtain ⟨hrecord, hcontext⟩ := Pass.step_access hbinding hkind
      have hrest := @ih (p.step binding) (by rw [hcontext, Context.access_reveal, hkind])
      rw [hrecord, hcontext] at hrest
      rw [List.filterMap_cons_some hbinding, List.foldl_cons, List.foldl_cons]
      exact hrest

end Pass

/-! ## What the two ways show -/

section Agreement

variable {c : Catalog} {r : Record} {table : FieldTable} {ctx : Context}

/-- What a pass of the access tool leaves in the projection. -/
theorem projection_applyTools (htools : c.tools = Catalog.new.tools)
    (htable : c.introspect r.type = .ok table) (hkind : ctx.access = .reading) :
    (c.applyTools [Tool.accessName] r ctx).context =
      table.fields.foldl (Context.reveal c.registry.principals r) ctx := by
  have htool : Tool.access.IsOnly c.tools := htools ▸ Tool.isOnly_access
  have hname : Tool.accessName ∈ c.toolNames := htool.mem_toolNames
  rw [applyTools_singleton hname htable, FieldTable.bucket_access htool htable]
  exact (Pass.foldl_access (p := ⟨r, ctx, .empty⟩) table.fields hkind).2

/-- What is shown under a name that belongs to a field with an access tag. -/
theorem projectReadable_eq (htable : c.introspect r.type = .ok table) (principal : Principal) :
    ∃ readable, c.projectReadable r principal = .ok readable ∧
      Dict.Sorted (table.ofTagged readable) ∧
      ∀ name, (table.ofTagged readable).find? name =
        (table.field? name).bind (Field.shown? c.registry.principals principal r) := by
  let value? (e : String × Field) : Option Value :=
    e.2.access.elim (e.2.read? r) fun mask =>
      if c.registry.principals.allows mask principal .reading then e.2.read? r else none
  have hreadable : c.projectReadable r principal =
      .ok (table.named.filterMap fun e => (value? e).map fun v => (e.1, v)) := by
    refine bind_eq_ok_iff.2 ⟨table, htable, congrArg Except.ok (List.filterMap_congr fun e _ => ?_)⟩
    simp only [value?]
    cases e.2.access with
    | none => rfl
    | some mask =>
      cases hallowed : c.registry.principals.allows mask principal .reading <;> simp [hallowed]
  refine ⟨_, hreadable, ((FieldTable.sorted_named table).filterMap value?).filter _, fun name => ?_⟩
  rw [FieldTable.find?_ofTagged, Dict.find?_filterMap (FieldTable.sorted_named table),
    FieldTable.find?_named]
  cases howner : table.field? name with
  | none => rfl
  | some f =>
    have htagged := FieldTable.access_isSome_eq htable (FieldTable.mem_of_field? howner).1
    rw [Option.bind_some, Option.bind_some, Option.bind_some, ← htagged, Field.shown?]
    cases hmask : f.access <;> simp [value?, hmask]

/-- **The two ways to read agree under every name where the last field that is shown is the one that
the name belongs to**, and under the others the pass shows that last field.  They agree altogether
where every field with an access tag owns its external name. -/
theorem projection_eq_ofTagged (htools : c.tools = Catalog.new.tools)
    (htable : c.introspect r.type = .ok table) (hempty : ctx.projection = [])
    (hkind : ctx.access = .reading) :
    ∃ readable, c.projectReadable r ctx.principal = .ok readable ∧
      let projection := (c.applyTools [Tool.accessName] r ctx).context.projection
      let last := table.lastShown? c.registry.principals ctx.principal r
      (∀ name, projection.find? name =
        (last name).bind (Field.shown? c.registry.principals ctx.principal r)) ∧
      (∀ name, (∀ f, last name = some f → table.field? name = some f) →
        projection.find? name = (table.ofTagged readable).find? name) ∧
      ((∀ name f, last name = some f → table.field? name = some f) →
        projection = table.ofTagged readable) ∧
      ((∀ f ∈ table.fields, (f.tag? Tool.accessName).isSome →
        table.field? f.externalName = some f) → projection = table.ofTagged readable) := by
  obtain ⟨readable, hreadable, hsorted, howned⟩ := projectReadable_eq htable ctx.principal
  refine ⟨readable, hreadable, ?_⟩
  intro projection last
  have hpass : projection =
      (table.fields.foldl (Context.reveal c.registry.principals r) ctx).projection :=
    congrArg Context.projection (projection_applyTools htools htable hkind)
  have hlast : ∀ name, projection.find? name =
      (last name).bind (Field.shown? c.registry.principals ctx.principal r) := by
    intro name
    rw [hpass, Context.find?_projection_foldl_reveal, hempty, Dict.find?, Option.or_none]
    rfl
  have hagree : ∀ name, (∀ f, last name = some f → table.field? name = some f) →
      projection.find? name = (table.ofTagged readable).find? name := by
    intro name hname
    rw [hlast, howned]
    cases hshown : last name with
    | some f => rw [hname f hshown]
    | none =>
      cases howner : table.field? name with
      | none => rfl
      | some f =>
        obtain ⟨hf, hfname⟩ := FieldTable.mem_of_field? howner
        have hnone := List.find?_eq_none.1 hshown f (List.mem_reverse.2 hf)
        rw [hfname, beq_self_eq_true, Bool.true_and, Option.not_isSome_iff_eq_none] at hnone
        rw [Option.bind_some, Option.bind_none, hnone]
  have hwhole : (∀ name f, last name = some f → table.field? name = some f) →
      projection = table.ofTagged readable := by
    intro hall
    have hprojection : Dict.Sorted projection := by
      rw [hpass]
      exact Context.sorted_foldl_reveal (hempty ▸ Dict.sorted_nil) table.fields
    exact hprojection.ext hsorted fun name => hagree name (hall name)
  refine ⟨hlast, hagree, hwhole, fun howners => hwhole fun name f => ?_⟩
  refine FieldTable.field?_of_lastShown? fun g hg haccess => howners g hg ?_
  rwa [← FieldTable.access_isSome_eq htable hg]

end Agreement

/-! ## Two small types -/

/-- A visitor with a badge; both have a name, and the visitor's is the one that is found. -/
def visitor : RecordType :=
  ⟨Reference.info "Visitor" [], [Reference.plain "name" .text [(Tool.accessName, "r-")],
    Reference.nested "badge" .named ⟨Reference.info "Badge" [],
      [Reference.plain "name" (.int .w64) [(Tool.accessName, "r-")]]⟩]⟩

/-- A guest with a badge, each with a name of its own. -/
def guest : RecordType :=
  ⟨Reference.info "Guest" [], [Reference.plain "name" .text [(Tool.accessName, "r-")],
    Reference.nested "badge" .named ⟨Reference.info "Badge" [],
      [Reference.plain "number" (.int .w64) [(Tool.accessName, "r-")]]⟩]⟩

/-- A catalog with one principal. -/
def withUser : Catalog :=
  { new with registry := { new.registry with principals := ⟨["user"]⟩ } }

/-- The principal reads. -/
def userReading : Context := (Context.empty.setPrincipal (.named "user")).setAccess .reading

/-- The two ways agree on a guest. -/
theorem projection_guest :
    new.registerPrincipals ["user"] = .ok withUser ∧ ∃ table,
      withUser.introspect guest.zero.type = .ok table ∧ ∃ readable,
        withUser.projectReadable guest.zero userReading.principal = .ok readable ∧
        (withUser.applyTools [Tool.accessName] guest.zero userReading).context.projection =
          table.ofTagged readable := by
  refine ⟨rfl, _, rfl, ?_⟩
  obtain ⟨readable, hreadable, -, -, -, howners⟩ :=
    @projection_eq_ofTagged withUser guest.zero _ userReading rfl rfl rfl rfl
  refine ⟨readable, hreadable, howners fun f hf _ => ?_⟩
  rcases List.mem_cons.1 hf with rfl | hf
  · rfl
  · rcases List.mem_singleton.1 hf with rfl
    rfl

/-- The two ways differ on a visitor: the index shows the visitor's name, and the pass that of the
badge. -/
theorem projection_visitor :
    new.registerPrincipals ["user"] = .ok withUser ∧ ∃ table,
      withUser.introspect visitor.zero.type = .ok table ∧ ∃ readable,
        withUser.projectReadable visitor.zero userReading.principal = .ok readable ∧
        table.ofTagged readable = [("name", .text "")] ∧
        (withUser.applyTools [Tool.accessName] visitor.zero userReading).context.projection =
          [("name", .int 0)] :=
  ⟨rfl, _, rfl, _, rfl, rfl, rfl⟩

end Catalog

end FieldRules
