import FieldRules.Proofs.Access.ReadPaths

/-!
# What a principal cannot read has no influence

Whatever a principal is shown of a record depends only on the fields that the principal may read:
those without an access tag, and those whose mask allows it.  Two records of one type that agree on
these fields look the same through the index of external names, and a reading pass leaves the same
context and the same result behind for both.

## Main definitions

* `Field.isVisible`, `Field.seen?` — whether a principal may read a field, and what it then sees.
* `FieldTable.AgreeFor` — agreement of two records on the fields that a principal may read.
* `Catalog.Pass.Alike` — two reading passes that have done the same so far.

## Main statements

* `Catalog.Pass.Alike.step`, `Catalog.Pass.Alike.foldl` — passes over records that agree stay alike.
* `Catalog.reads_eq_of_agreeFor` — records that agree are shown alike.
-/

namespace FieldRules

/-- Whether a principal may read a field: it has no access tag, or its mask allows reading. -/
def Field.isVisible (principals : Principals) (principal : Principal) (f : Field) : Bool :=
  f.access.all fun mask => principals.allows mask principal .reading

/-- What a principal sees of a field: its value, if the principal may read it. -/
def Field.seen? (principals : Principals) (principal : Principal) (r : Record) (f : Field) :
    Option Value :=
  if f.isVisible principals principal then f.read? r else none

/-- Two records have the same values at every field that a principal may read. -/
def FieldTable.AgreeFor (table : FieldTable) (principals : Principals) (principal : Principal)
    (r₁ r₂ : Record) : Prop :=
  ∀ f ∈ table.fields, f.isVisible principals principal = true → f.read? r₁ = f.read? r₂

/-- Of records that agree the same is seen of every field. -/
theorem FieldTable.AgreeFor.seen?_eq {table : FieldTable} {principals : Principals}
    {principal : Principal} {r₁ r₂ : Record} (h : table.AgreeFor principals principal r₁ r₂)
    {f : Field} (hf : f ∈ table.fields) :
    f.seen? principals principal r₁ = f.seen? principals principal r₂ := by
  rw [Field.seen?, Field.seen?]
  split
  · next hvisible => exact h f hf hvisible
  · rfl

namespace Catalog

/-! ## Two passes side by side -/

/-- Two reading passes of a principal, over two records, that have done the same so far. -/
structure Pass.Alike (principal : Principal) (r₁ r₂ : Record) (p q : Pass) : Prop where
  left : p.record = r₁
  right : q.record = r₂
  context : q.context = p.context
  errors : q.errors = p.errors
  principal : p.context.principal = principal
  access : p.context.access = .reading

section Pass

variable {principals : Principals} {principal : Principal} {r₁ r₂ : Record} {p q : Pass}

/-- What the access tool does to a field keeps two passes alike, if the records agree on the field
where the principal may read it. -/
theorem Pass.Alike.step (h : Alike principal r₁ r₂ p q) {f : Field} {mask : AccessMask}
    (hmask : f.access = some mask)
    (hagree : f.isVisible principals principal = true → f.read? r₁ = f.read? r₂) :
    Alike principal r₁ r₂ (p.step (f, Tool.accessApplier principals mask f.isProvided))
      (q.step (f, Tool.accessApplier principals mask f.isProvided)) := by
  obtain ⟨rfl, rfl, hcontext, herrors, hprincipal, haccess⟩ := h
  rw [Field.isVisible, hmask, Option.all_some] at hagree
  simp only [Pass.step, hcontext, herrors, accessApplier_of_reading haccess, hprincipal]
  by_cases hallowed : principals.allows mask principal .reading = true
  · -- both passes read the field, and find the same
    rw [if_pos hallowed, if_pos hallowed, ← hagree hallowed]
    cases f.read? p.record <;> constructor <;> simp [hprincipal, haccess]
  · -- neither pass looks at the field
    rw [if_neg hallowed, if_neg hallowed]
    constructor <;> simp [hprincipal, haccess]

/-- Passes over records that agree stay alike. -/
theorem Pass.Alike.foldl (h : Alike principal r₁ r₂ p q) {bindings : List (Field × Applier)}
    (hbindings : ∀ b ∈ bindings, ∃ mask, b.1.access = some mask ∧
      b.2 = Tool.accessApplier principals mask b.1.isProvided)
    (hagree : ∀ b ∈ bindings, b.1.isVisible principals principal = true →
      b.1.read? r₁ = b.1.read? r₂) :
    Alike principal r₁ r₂ (bindings.foldl Pass.step p) (bindings.foldl Pass.step q) := by
  induction bindings generalizing p q with
  | nil => exact h
  | cons b rest ih =>
    obtain ⟨f, applier⟩ := b
    obtain ⟨mask, hmask, happlier⟩ := hbindings _ List.mem_cons_self
    change applier = Tool.accessApplier principals mask f.isProvided at happlier
    subst happlier
    exact ih (h.step hmask (hagree _ List.mem_cons_self))
      (fun b hb => hbindings b (List.mem_cons_of_mem _ hb))
      (fun b hb => hagree b (List.mem_cons_of_mem _ hb))

end Pass

/-! ## What is shown of two records -/

section Confidentiality

variable {c : Catalog} {r₁ r₂ : Record} {table : FieldTable} {principal : Principal}

/-- What the index of external names shows: under each name what the principal sees of the field that
the name belongs to. -/
theorem projectReadable_eq_ok (htable : c.introspect r₁.type = .ok table) (principal : Principal) :
    ∃ readable, c.projectReadable r₁ principal = .ok readable ∧ Dict.Sorted readable ∧
      ∀ name, readable.find? name =
        (table.field? name).bind (Field.seen? c.registry.principals principal r₁) := by
  let seenOf (e : String × Field) : Option (String × Value) :=
    (e.2.seen? c.registry.principals principal r₁).map fun v => (e.1, v)
  have hreadable : c.projectReadable r₁ principal = .ok (table.named.filterMap seenOf) := by
    rw [projectReadable, htable]
    refine congrArg Except.ok (List.filterMap_congr fun e _ => ?_)
    cases hmask : e.2.access with
    | none => simp [seenOf, Field.seen?, Field.isVisible, hmask]
    | some mask =>
      cases hallowed : c.registry.principals.allows mask principal .reading <;>
        simp [seenOf, Field.seen?, Field.isVisible, hmask, hallowed]
  refine ⟨_, hreadable, table.sorted_named.filterMap _, fun name => ?_⟩
  rw [Dict.find?_filterMap table.sorted_named, FieldTable.find?_named]

/-- The index of external names shows the same of records that agree. -/
theorem projectReadable_eq_of_agreeFor (htype : r₂.type = r₁.type)
    (htable : c.introspect r₁.type = .ok table)
    (hagree : table.AgreeFor c.registry.principals principal r₁ r₂) :
    c.projectReadable r₁ principal = c.projectReadable r₂ principal := by
  obtain ⟨readable₁, hreadable₁, hsorted₁, hfind₁⟩ := projectReadable_eq_ok htable principal
  obtain ⟨readable₂, hreadable₂, hsorted₂, hfind₂⟩ :=
    projectReadable_eq_ok (htype ▸ htable) principal
  rw [hreadable₁, hreadable₂, hsorted₁.ext hsorted₂ fun name => ?_]
  rw [hfind₁, hfind₂]
  cases howner : table.field? name with
  | none => rfl
  | some f => exact hagree.seen?_eq (FieldTable.mem_of_field? howner).1

/-- Every binding of the access tool to a field enforces the mask of the field. -/
theorem exists_mask_of_mem_bucket
    (haccess : ∀ e ∈ c.tools, e.2.name = Tool.accessName → e.2 = Tool.access)
    (htable : c.introspect r₁.type = .ok table) {b : Field × Applier}
    (hb : b ∈ table.bucket Tool.accessName) :
    b.1 ∈ table.fields ∧ ∃ mask, b.1.access = some mask ∧
      b.2 = Tool.accessApplier c.registry.principals mask b.1.isProvided := by
  obtain ⟨hf, e, he, hname, happlier⟩ := FieldTable.exists_tool_of_mem_bucket htable hb
  refine ⟨hf, ?_⟩
  rw [haccess e he hname] at happlier
  cases htag : b.1.tag? e.1 with
  | none => simp [Tool.access, htag] at happlier
  | some tag =>
    cases hmask : b.1.access with
    | none => simp [Tool.access, htag, hmask] at happlier
    | some mask =>
      simp only [Tool.access, htag, hmask, Except.ok.injEq, Option.some.injEq] at happlier
      exact ⟨mask, rfl, happlier.symm⟩

/-- A reading pass leaves the same behind for records that agree. -/
theorem applyTools_eq_of_agreeFor
    (haccess : ∀ e ∈ c.tools, e.2.name = Tool.accessName → e.2 = Tool.access)
    (htype : r₂.type = r₁.type) (htable : c.introspect r₁.type = .ok table)
    (hagree : table.AgreeFor c.registry.principals principal r₁ r₂) {ctx : Context}
    (hprincipal : ctx.principal = principal) (hkind : ctx.access = .reading) :
    c.applyTools [Tool.accessName] r₂ ctx =
      { c.applyTools [Tool.accessName] r₁ ctx with record := r₂ } ∧
      (c.applyTools [Tool.accessName] r₁ ctx).record = r₁ := by
  by_cases hknown : Tool.accessName ∈ c.toolNames
  · have hmask : ∀ b ∈ table.bucket Tool.accessName, _ := fun b hb =>
      exists_mask_of_mem_bucket haccess htable hb
    have hstart : Pass.Alike principal r₁ r₂ ⟨r₁, ctx, .empty⟩ ⟨r₂, ctx, .empty⟩ :=
      ⟨rfl, rfl, rfl, rfl, hprincipal, hkind⟩
    have hend := hstart.foldl (fun b hb => (hmask b hb).2)
      fun b hb hvisible => hagree b.1 (hmask b hb).1 hvisible
    rw [applyTools_singleton hknown htable, applyTools_singleton hknown (htype ▸ htable)]
    simp only [Pass.outcome, hend.left, hend.right, hend.context, hend.errors, and_self]
  · have hunknown : [Tool.accessName].find? (fun name => !c.toolNames.contains name) =
        some Tool.accessName := by
      simpa using hknown
    rw [applyTools, applyTools, hunknown]
    exact ⟨rfl, rfl⟩

/-- **What a principal may not read has no influence on what the principal is shown.**  Records of
one type that agree on the fields that the principal may read are shown alike through the index,
under each name what the principal sees of the field that the name belongs to, and a reading pass
from one context leaves both as they are, with equal contexts and equal results. -/
theorem reads_eq_of_agreeFor (htype : r₂.type = r₁.type)
    (htable : c.introspect r₁.type = .ok table)
    (hagree : table.AgreeFor c.registry.principals principal r₁ r₂) :
    (∃ readable, c.projectReadable r₁ principal = .ok readable ∧
      c.projectReadable r₂ principal = .ok readable ∧
      ∀ name, readable.find? name =
        (table.field? name).bind (Field.seen? c.registry.principals principal r₁)) ∧
    ((∀ e ∈ c.tools, e.2.name = Tool.accessName → e.2 = Tool.access) →
      ∀ ctx : Context, ctx.principal = principal → ctx.access = .reading →
        let out₁ := c.applyTools [Tool.accessName] r₁ ctx
        let out₂ := c.applyTools [Tool.accessName] r₂ ctx
        out₁.context.projection = out₂.context.projection ∧ out₁.context = out₂.context ∧
          out₁.result = out₂.result ∧ out₁.record = r₁ ∧ out₂.record = r₂) := by
  constructor
  · obtain ⟨readable, hreadable, -, hfind⟩ := projectReadable_eq_ok htable principal
    refine ⟨readable, hreadable, ?_, hfind⟩
    rw [← projectReadable_eq_of_agreeFor htype htable hagree, hreadable]
  · intro haccess ctx hprincipal hkind out₁ out₂
    obtain ⟨hout, hrecord⟩ :=
      applyTools_eq_of_agreeFor haccess htype htable hagree hprincipal hkind
    have hsecond : out₂ = { out₁ with record := r₂ } := hout
    rw [hsecond]
    exact ⟨rfl, rfl, rfl, hrecord, rfl⟩

end Confidentiality

/-- A letter with a sender that the user may read, a text that the user may only write, and a subject
that anyone may read. -/
def letter : RecordType :=
  ⟨Reference.info "Letter" [], [
    Reference.plain "sender" .text [(Tool.accessName, "r-")],
    Reference.plain "text" .text [(Tool.accessName, "-w")],
    Reference.plain "subject" .text []]⟩

/-- A letter with a text. -/
def letterOf (text : String) : Record := letter.zero.put ⟨⟨.text, true, true⟩, text⟩ "text" []

/-- Two letters that differ in their texts are shown alike. -/
theorem reads_eq_letter :
    (letterOf "yes").readPath? "text" = some (.text "yes") ∧
      (letterOf "no").readPath? "text" = some (.text "no") ∧
      ∃ table, withUser.introspect (letterOf "yes").type = .ok table ∧
        table.AgreeFor withUser.registry.principals userReading.principal (letterOf "yes")
          (letterOf "no") ∧
        (∃ readable,
          withUser.projectReadable (letterOf "yes") userReading.principal = .ok readable ∧
          withUser.projectReadable (letterOf "no") userReading.principal = .ok readable) ∧
        (withUser.applyTools [Tool.accessName] (letterOf "yes") userReading).context.projection =
          (withUser.applyTools [Tool.accessName] (letterOf "no") userReading).context.projection := by
  have hagree : ∀ table, withUser.introspect (letterOf "yes").type = .ok table →
      table.AgreeFor withUser.registry.principals userReading.principal (letterOf "yes")
        (letterOf "no") := by
    intro table htable f hf hvisible
    obtain rfl : _ = table := Except.ok.inj htable
    rcases List.mem_cons.1 hf with rfl | hf
    · rfl
    · rcases List.mem_cons.1 hf with rfl | hf
      · cases hvisible
      · rcases List.mem_singleton.1 hf with rfl
        rfl
  have haccess : ∀ e ∈ withUser.tools, e.2.name = Tool.accessName → e.2 = Tool.access :=
    fun e he hname => congrArg Prod.snd (Tool.isOnly_access.eq_of_name_eq he hname)
  refine ⟨rfl, rfl, _, rfl, hagree _ rfl, ?_⟩
  obtain ⟨⟨readable, hyes, hno, -⟩, hpass⟩ :=
    @reads_eq_of_agreeFor withUser (letterOf "yes") (letterOf "no") _ _ rfl rfl (hagree _ rfl)
  exact ⟨⟨readable, hyes, hno⟩, (hpass haccess userReading rfl rfl).1⟩

end Catalog

end FieldRules
