import FieldRules.Proofs.Catalog.Built
import FieldRules.Proofs.Catalog.Pass
import FieldRules.Proofs.FieldTable
import FieldRules.Proofs.Tool.Validate

/-!
# What a validating pass finds

A validating pass looks at the flat fields that have a validation tag.  The group that counts for a
field is the last one of the active scope, else the last one of the scope that the active one stands
for, else the last one for every scope.  The field fails if there is such a group and its constraint
does not hold of the field's value, or if the field cannot be read.  The pass changes nothing, and
its error has one leaf for each field that fails, in the order of the walk.

## Main definitions

* `Tool.chosen?` — the group that counts.
* `Field.failure?` — how a field fails.

## Main statements

* `Tool.governing_constraintsByScope` — the plan of a tag's groups chooses the group that counts.
* `Catalog.validate_eq` — what a validating pass leaves behind.
* `Catalog.leaves_validate` — which fields a validating pass finds fault with.
* `Catalog.eq_validation_of_failure?` — fields of regular types fail their constraints only.
-/

namespace FieldRules

namespace Tool

variable {a : Aliases} {groups : List (String × Constraint)} {scope : String}

/-- The constraint that counts in a scope: of the last group for it, else of the last group for the
scope that it is an alias of, else of the last group for every scope. -/
def chosen? (a : Aliases) (groups : List (String × Constraint)) (scope : String) :
    Option Constraint :=
  (lastGroup? a groups scope).or
    (((a.targets.find? scope).bind (lastGroup? a groups)).or (lastGroup? a groups wildcard))

/-- What governs a scope in the plan of a tag's groups is the constraint that counts there. -/
theorem governing_constraintsByScope (ha : a.WellFormed) :
    Plan.governing a (constraintsByScope a groups) scope = chosen? a groups scope := by
  rw [Plan.governing, chosen?, Option.or_assoc, find?_constraintsByScope_eq]
  by_cases hwild : wildcard = scope
  · -- the wildcard is no alias, and what is said for it is said last
    subst hwild
    rw [Plan.own, if_pos rfl, ha.find?_wildcard, Option.bind_none, Option.bind_none,
      Option.none_or, Option.none_or, Option.or_self]
  · have hown : ∀ target, wildcard ≠ target →
        Plan.own (constraintsByScope a groups) target = lastGroup? a groups target := by
      intro target hne
      rw [Plan.own, if_neg hne, find?_constraintsByScope_eq]
    rw [hown scope hwild]
    cases htarget : a.targets.find? scope with
    | none => rfl
    | some target => rw [Option.bind_some, Option.bind_some, hown target (ha.scope_ne htarget).symm]

end Tool

/-! ## One field -/

namespace Tool

/-- How a field fails a constraint in a scope, if it does: it cannot be read, or its value does not
satisfy the constraint. -/
def checkFailure? (c : Constraint) (f : Field) (r : Record) (scope : String) : Option Error :=
  match f.read? r with
  | none => some (.unprocessable f.location "field not found")
  | some v => if c.test v then none else some (.validation f.location scope c.details)

variable {c : Constraint} {f : Field} {r : Record} {scope : String}

theorem checkApplier_eq (c : Constraint) (f : Field) (r : Record) (ctx : Context) :
    checkApplier c f r ctx = .checked r ctx (checkFailure? c f r ctx.scope) := by
  rw [checkApplier, checkFailure?]
  cases f.read? r with
  | none => rfl
  | some v => cases hv : c.test v <;> simp [hv, Outcome.checked]

theorem checkFailure?_eq_none_iff :
    checkFailure? c f r scope = none ↔ ∃ v, f.read? r = some v ∧ c.test v = true := by
  rw [checkFailure?]
  cases f.read? r <;> simp

theorem concerns_of_checkFailure? {e : Error} (h : checkFailure? c f r scope = some e) :
    e.Concerns f.location := by
  rw [checkFailure?] at h
  cases hv : f.read? r with
  | none =>
    simp only [hv, Option.some.injEq] at h
    exact h ▸ rfl
  | some v =>
    simp only [hv] at h
    split at h
    · cases h
    · exact Option.some.inj h ▸ rfl

end Tool

namespace Field

/-- The constraint that counts for a field in a scope.  Only flat fields with a validation tag have
one. -/
def constraint? (registry : Registry) (scope : String) (f : Field) : Option Constraint :=
  if f.isNested then none
  else (f.tag? Tool.validateName).bind fun tag =>
    (registry.vocabulary.parseTag tag).toOption.bind fun groups =>
      Tool.chosen? registry.aliases groups scope

/-- How a field fails in a scope, if it does. -/
def failure? (registry : Registry) (r : Record) (scope : String) (f : Field) : Option Error :=
  (f.constraint? registry scope).bind fun c => Tool.checkFailure? c f r scope

variable {registry : Registry} {r : Record} {f : Field}

theorem concerns_of_failure? {scope : String} {e : Error}
    (h : f.failure? registry r scope = some e) : e.Concerns f.location := by
  obtain ⟨c, -, hc⟩ := Option.bind_eq_some_iff.1 h
  exact Tool.concerns_of_checkFailure? hc

/-- What the validate tool is bound to do for a field is to tell how it fails; where it is bound to
do nothing, the field cannot fail. -/
theorem validate_checks (ha : registry.aliases.WellFormed) {applier? : Option Applier}
    (h : Tool.validate.applier registry f (f.tag? Tool.validateName) = .ok applier?)
    (r : Record) (ctx : Context) :
    (applier? = none ∧ f.failure? registry r ctx.scope = none) ∨
      ∃ applier, applier? = some applier ∧
        applier f r ctx = .checked r ctx (f.failure? registry r ctx.scope) := by
  cases htag : f.tag? Tool.validateName with
  | none =>
    rw [htag] at h
    cases h
    exact .inl ⟨rfl, by simp [failure?, constraint?, htag]⟩
  | some tag =>
    cases hnested : f.isNested with
    | true =>
      simp only [Tool.validate, htag, hnested, if_true, Except.ok.injEq] at h
      exact .inl ⟨h.symm, by simp [failure?, constraint?, hnested]⟩
    | false =>
      simp only [Tool.validate, htag, hnested, Bool.false_eq_true, if_false, map_eq_ok_iff] at h
      obtain ⟨groups, hgroups, happlier⟩ := h
      have hconstraint : f.constraint? registry ctx.scope =
          Plan.governing registry.aliases (Tool.constraintsByScope registry.aliases groups)
            ctx.scope := by
        rw [Tool.governing_constraintsByScope ha, constraint?, hnested, if_neg Bool.false_ne_true,
          htag, Option.bind_some, hgroups]
        rfl
      rw [failure?, hconstraint]
      rw [Plan.applier?, Tool.validatePlan] at happlier
      split at happlier
      · next hnothing =>
        exact .inl ⟨happlier.symm, by rw [Plan.governing_of_isNothing hnothing]; rfl⟩
      · next hsome =>
        refine .inr ⟨_, happlier.symm, ?_⟩
        rw [Plan.run_ofScopes ha.sorted]
        cases Plan.governing registry.aliases (Tool.constraintsByScope registry.aliases groups)
            ctx.scope with
        | none => rfl
        | some c => exact Tool.checkApplier_eq c f r ctx

end Field

namespace Catalog

/-! ## A validating pass -/

section Validation

variable {c : Catalog} {r : Record} {table : FieldTable}

/-- What a validating pass leaves behind: the failures of the fields, in the order of the walk. -/
theorem validate_eq (hbuilt : c.Built) (htool : Tool.validate.IsOnly c.tools)
    (htable : c.introspect r.type = .ok table) (ctx : Context) :
    c.validate r ctx = ⟨r, ctx, ErrorBatch.result
      ⟨table.fields.filterMap (Field.failure? c.registry r ctx.scope)⟩⟩ := by
  have hbound : ∀ f ∈ table.fields,
      (FieldTable.boundAs c.registry f Tool.validate.name c.tools = [] ∧
        f.failure? c.registry r ctx.scope = none) ∨
      ∃ applier, FieldTable.boundAs c.registry f Tool.validate.name c.tools = [applier] ∧
        applier f r ctx = .checked r ctx (f.failure? c.registry r ctx.scope) := by
    intro f hf
    obtain ⟨applier?, hanswer⟩ := FieldTable.exists_answer htable hf htool.mem
    rw [FieldTable.boundAs_of_isOnly htool]
    change Tool.validate.applier c.registry f (f.tag? Tool.validate.name) = .ok applier? at hanswer
    rw [hanswer]
    rcases Field.validate_checks hbuilt.reachable_aliases.wellFormed hanswer r ctx with
      ⟨rfl, hnone⟩ | ⟨applier, rfl, happlier⟩
    · exact .inl ⟨rfl, hnone⟩
    · exact .inr ⟨applier, rfl, happlier⟩
  have hrun := Pass.foldl_checked (p := ⟨r, ctx, .empty⟩) hbound
    fun f _ e he => Field.concerns_of_failure? he
  have hpass := applyTools_singleton htool.mem_toolNames htable ctx
  rw [FieldTable.bucket_eq htable, hrun] at hpass
  exact hpass

/-- **A validating pass changes nothing, succeeds exactly when no field fails, and tells every field
that fails once, in the order of the walk.**  A field fails when a constraint counts for it and it
cannot be read or its value does not satisfy the constraint. -/
theorem leaves_validate (hbuilt : c.Built) (htool : Tool.validate.IsOnly c.tools)
    (htable : c.introspect r.type = .ok table) (ctx : Context) :
    let out := c.validate r ctx
    out.record = r ∧ out.context = ctx ∧
      (∀ f ∈ table.fields, f.isNested = false → ∀ tag, f.tag? Tool.validateName = some tag →
        ∃ groups, c.registry.vocabulary.parseTag tag = .ok groups) ∧
      (out.result = .ok () ↔ ∀ f ∈ table.fields, ∀ constraint,
        f.constraint? c.registry ctx.scope = some constraint →
          ∃ v, f.read? r = some v ∧ constraint.test v = true) ∧
      ∀ e, out.result = .error e →
        e.leaves = table.fields.filterMap (Field.failure? c.registry r ctx.scope) := by
  intro out
  have hout : out = ⟨r, ctx, ErrorBatch.result
      ⟨table.fields.filterMap (Field.failure? c.registry r ctx.scope)⟩⟩ :=
    validate_eq hbuilt htool htable ctx
  rw [hout]
  refine ⟨rfl, rfl, ?_, ?_, ?_⟩
  · intro f hf hflat tag htag
    obtain ⟨applier?, hanswer⟩ := FieldTable.exists_answer htable hf htool.mem
    change Tool.validate.applier c.registry f (f.tag? Tool.validateName) = .ok applier? at hanswer
    simp only [Tool.validate, htag, hflat, Bool.false_eq_true, if_false, map_eq_ok_iff] at hanswer
    obtain ⟨groups, hgroups, -⟩ := hanswer
    exact ⟨groups, hgroups⟩
  · rw [ErrorBatch.result_eq_ok_iff, List.filterMap_eq_nil_iff]
    refine forall₂_congr fun f _ => ?_
    rw [Field.failure?, Option.bind_eq_none_iff]
    exact forall₂_congr fun constraint _ => Tool.checkFailure?_eq_none_iff
  · intro e he
    rw [ErrorBatch.leaves_of_result he]
    refine Error.allLeaves_of_concerns fun e he => ?_
    obtain ⟨f, -, hf⟩ := List.mem_filterMap.1 he
    exact ⟨f.location, Field.concerns_of_failure? hf⟩

/-- In a record of a regular type every field can be read, so only failed constraints are told. -/
theorem eq_validation_of_failure? (hregular : r.type.isRegular = true)
    (htable : c.introspect r.type = .ok table) {f : Field} (hf : f ∈ table.fields) {scope : String}
    {e : Error} (he : f.failure? c.registry r scope = some e) :
    ∃ constraint v, f.constraint? c.registry scope = some constraint ∧ f.read? r = some v ∧
      constraint.test v = false ∧ e = .validation f.location scope constraint.details := by
  obtain ⟨constraint, hconstraint, he⟩ := Option.bind_eq_some_iff.1 he
  obtain ⟨cell, hcell, hreadable, -⟩ :=
    Record.exists_cell (FieldTable.hasSlot_of_mem_fields hregular htable hf)
  have hread : f.read? r = some (cell.slot.type.toValue cell.content) := by
    rw [Field.read?, Record.readPath?_eq hcell, Cell.read?, if_pos hreadable]
  simp only [Tool.checkFailure?, hread] at he
  cases htest : constraint.test (cell.slot.type.toValue cell.content) with
  | true => simp [htest] at he
  | false =>
    simp only [htest, Bool.false_eq_true, if_false, Option.some.injEq] at he
    exact ⟨constraint, _, hconstraint, hread, htest, he.symm⟩

end Validation

/-- A form with a signature that must not be there yet, an applicant who is required, and an annex
whose own signature is not looked at. -/
def form : RecordType :=
  ⟨Reference.info "Form" [], [
    Reference.plain "signature" .text [(Tool.validateName, "create:nil;*:required")],
    Reference.plain "applicant" .text [(Tool.validateName, "required")],
    Reference.nested "annex" .named ⟨Reference.info "Annex" [],
      [Reference.plain "mark" .text [(Tool.validateName, "nil")]]⟩]⟩

/-- When a form is created, its signature alone is told. -/
theorem leaves_validate_form :
    Built new ∧ ∃ table, new.introspect form.zero.type = .ok table ∧
      ∃ e, (new.validate form.zero (Context.empty.setScope "create")).result = .error e ∧
        e.leaves = table.fields.filterMap (Field.failure? new.registry form.zero "create") ∧
        e.leaves.map (fun leaf => (leaf.kind, leaf.location?)) =
          [(.validation, some "signature")] := by
  have hbuilds : (new.introspect form.zero.type).isOk = true := by decide +kernel
  have htold : (new.validate form.zero (Context.empty.setScope "create")).result.mapError
      (fun e => e.leaves.map fun leaf => (leaf.kind, leaf.location?)) =
        .error [(.validation, some "signature")] := by
    decide +kernel
  cases htable : new.introspect form.zero.type with
  | error e =>
    rw [htable] at hbuilds
    cases hbuilds
  | ok table =>
    cases hresult : (new.validate form.zero (Context.empty.setScope "create")).result with
    | ok u =>
      rw [hresult] at htold
      cases htold
    | error e =>
      rw [hresult] at htold
      have hleaves := (leaves_validate .new Tool.isOnly_validate htable
        (Context.empty.setScope "create")).2.2.2.2 e hresult
      exact ⟨.new, table, rfl, e, rfl, hleaves, Except.error.inj htold⟩

/-- A record with a text that is required and cannot be read. -/
def sealedText : RecordType :=
  ⟨Reference.info "Sealed" [], [.plain ⟨"text", .text, false, true,
    [(Tool.validateName, "required")]⟩ ⟨.text, false, true⟩]⟩

/-- A field that cannot be read fails without being told as a failed constraint. -/
theorem leaves_validate_sealedText :
    Built new ∧ ∃ table, new.introspect sealedText.zero.type = .ok table ∧
      (∃ f ∈ table.fields, f.isNested = false ∧ f.tag? Tool.validateName = some "required" ∧
        (f.constraint? new.registry wildcard).isSome = true) ∧
      ∃ e, (new.validate sealedText.zero .empty).result = .error e ∧
        e.leaves = [.unprocessable "text" "field not found"] ∧
        ∀ leaf ∈ e.leaves, leaf.kind ≠ .validation := by
  refine ⟨.new, _, rfl, ⟨_, .head _, rfl, rfl, rfl⟩, _, rfl, rfl, ?_⟩
  intro leaf hleaf
  rcases List.mem_singleton.1 hleaf with rfl
  decide

end Catalog

end FieldRules
