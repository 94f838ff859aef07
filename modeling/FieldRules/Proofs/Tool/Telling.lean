import FieldRules.Proofs.Directive.Meanings
import FieldRules.Proofs.Directive.Plan
import FieldRules.Proofs.Error
import FieldRules.Tool.Access
import FieldRules.Tool.Default
import FieldRules.Tool.Validate

/-!
# Appliers that tell their failures

An error that is a batch of nothing tells nothing.  What the tools do never fails with one: they fail
with errors of their own, which are no batches, or with what a field function fails with.

## Main definitions

* `Applier.TellsFailures` — an applier whose errors have leaves.
* `Tool.builtIn` — the tools that are always there.

## Main statements

* `Tool.tellsFailures_of_builtIn` — what the tools do that are always there tells its failures, as
  far as the field functions do.
-/

namespace FieldRules

/-- A field function whose errors have leaves. -/
def FieldFunction.TellsFailures (f : FieldFunction) : Prop :=
  ∀ r field ctx, Error.Telling (f r field ctx).1

/-- Writing a field fails with an error of its own. -/
theorem Field.telling_store (field : Field) (r : Record) (v : Value) :
    Error.Telling (field.store r v) := by
  refine Error.telling_of_isBatch fun e he => ?_
  rw [Field.store] at he
  cases hwrite : r.writePath field.location v with
  | ok r' =>
    rw [hwrite] at he
    cases he
  | error slotError =>
    rw [hwrite] at he
    cases he
    cases slotError <;> rfl

/-! ## Appliers -/

namespace Applier

/-- An applier whose errors have leaves. -/
def TellsFailures (a : Applier) : Prop := ∀ field r ctx, Error.Telling (a field r ctx).result

theorem tellsFailures_skip : skip.TellsFailures := by
  intro field r ctx e he
  cases he

theorem tellsFailures_write {f : Field → Record → Except Error Value}
    (hf : ∀ field r, Error.Telling (f field r)) : (write f).TellsFailures := by
  intro field r ctx e he
  simp only [write] at he
  split at he
  · next e' hsource =>
    cases he
    exact hf field r e hsource
  · next v hsource =>
    split at he
    · next e' hstore =>
      cases he
      exact field.telling_store r v e hstore
    · cases he

theorem telling_convert (field : Field) (v : Value) (source : String) :
    Error.Telling (convert field v source) := by
  refine Error.telling_of_isBatch fun e he => ?_
  rw [convert] at he
  split at he
  · cases he
  · cases he
    rfl

theorem telling_find (s : Source) (field : Field) (r : Record) : Error.Telling (s.find field r) := by
  refine Error.telling_of_isBatch fun e he => ?_
  cases s with
  | whole => cases he
  | field path | method name =>
    simp only [Source.find] at he
    split at he
    · cases he
    · cases he
      rfl

theorem tellsFailures_value (v : Value) : (value v).TellsFailures :=
  tellsFailures_write fun _ _ => nofun

theorem tellsFailures_copy (s : Source) : (copy s).TellsFailures := by
  refine tellsFailures_write fun field r e he => ?_
  cases hfound : s.find field r with
  | error e' =>
    rw [hfound] at he
    cases he
    exact telling_find s field r e hfound
  | ok v =>
    rw [hfound] at he
    exact telling_convert field v s.display e he

theorem tellsFailures_function (name : String) {f : FieldFunction} (hf : f.TellsFailures) :
    (function name f).TellsFailures := by
  intro field r ctx e he
  cases hanswer : f r field ctx with
  | mk answer ctx' =>
    simp only [function, hanswer] at he
    cases answer with
    | error e' =>
      cases he
      exact hf r field ctx e (by rw [hanswer])
    | ok v =>
      exact tellsFailures_write (fun field _ => telling_convert field v _) field r ctx' e he

theorem TellsFailures.ifZero {a : Applier} (ha : a.TellsFailures) : a.ifZero.TellsFailures := by
  intro field r ctx
  rw [Applier.ifZero]
  split
  · exact ha field r ctx
  · exact tellsFailures_skip field r ctx

/-- The errors of both are told. -/
theorem TellsFailures.followed {first second : Applier} (hfirst : first.TellsFailures)
    (hsecond : second.TellsFailures) (goesOn : Field → Record → Bool) :
    (first.followed goesOn second).TellsFailures := by
  intro field r ctx
  have hone := ErrorBatch.isTelling_empty.capture (hfirst field r ctx)
  simp only [Applier.followed]
  split
  · exact (hone.capture (hsecond field _ _)).telling_result
  · exact hone.telling_result

end Applier

/-- A plan tells the failures of whatever it chooses. -/
theorem Plan.tellsFailures_run {α : Type} {f : α → Applier} {p : Plan α}
    (h : p.Each fun a => (f a).TellsFailures) : (p.run f).TellsFailures := by
  induction p with
  | nothing => exact Applier.tellsFailures_skip
  | «scoped» byScope fallback =>
    intro field r ctx
    simp only [run]
    split
    · next chosen hchosen => exact h ctx.scope chosen hchosen field r ctx
    · exact Applier.tellsFailures_skip field r ctx
  | compose op left right ihleft ihright => exact (ihleft h.1).followed (ihright h.2) op.goesOn

namespace Tool

/-! ## Tools -/

variable {registry : Registry} {field : Field} {applier : Applier}

/-- A tool whose appliers tell their failures. -/
def TellsFailures (tool : Tool) (registry : Registry) : Prop :=
  ∀ field tag applier, tool.applier registry field tag = .ok (some applier) → applier.TellsFailures

/-- A field is filled with the answer of a function only when the function is registered. -/
theorem function?_of_readFilling {config : String} {text : List Char} {name : String}
    {f : FieldFunction} (h : readFilling registry field config text = .ok (.computed name f)) :
    registry.function? name = some f := by
  rw [readFilling.eq_def] at h
  split at h
  · cases h
  · next literal =>
    dsimp only at h
    split at h
    · rw [fixedConstant] at h
      split at h <;> cases h
    · rw [fixedLiteral] at h
      split at h <;> cases h
  · cases h
  · dsimp only at h
    split at h <;> cases h
  · dsimp only at h
    split at h
    · next f' hf' =>
      cases h
      exact hf'
    · cases h
  · cases h

section Default

variable (hfunctions : ∀ name f, registry.function? name = some f → f.TellsFailures)
include hfunctions

theorem tellsFailures_of_readFilling {config : String} {text : List Char} {filling : Filling}
    (h : readFilling registry field config text = .ok filling) : filling.applier.TellsFailures := by
  cases filling with
  | fixed v => exact Applier.tellsFailures_value v
  | copied source => exact Applier.tellsFailures_copy source
  | computed name f =>
    exact Applier.tellsFailures_function name (hfunctions name f (function?_of_readFilling h))

theorem tellsFailures_of_readDefault {config : String} {d : Default}
    (h : readDefault registry field config = .ok d) : d.applier.TellsFailures := by
  have hfilling : d.filling.applier.TellsFailures := by
    simp only [readDefault] at h
    split at h
    · obtain ⟨filling, hread, rfl⟩ := map_eq_ok_iff.1 h
      exact tellsFailures_of_readFilling hfunctions hread
    · obtain ⟨filling, hread, rfl⟩ := map_eq_ok_iff.1 h
      exact tellsFailures_of_readFilling hfunctions hread
  rw [Default.applier]
  split
  · exact hfilling.ifZero
  · exact hfilling

theorem tellsFailures_of_defaultPlan {directive : String} {p : Plan Default}
    (h : defaultPlan registry field directive = .ok p) :
    (p.run Default.applier).TellsFailures := by
  refine Plan.tellsFailures_run (Directive.each_plan ?_ h)
  intro config hconfig scope d hd
  obtain ⟨d', hread, heq⟩ := map_eq_ok_iff.1 hd
  cases heq
  exact tellsFailures_of_readDefault hfunctions hread

theorem tellsFailures_default : default.TellsFailures registry := by
  intro field tag applier h
  cases tag with
  | none => cases h
  | some directive =>
    obtain ⟨p, hp, happlier⟩ := map_eq_ok_iff.1 h
    exact Plan.run_of_applier? happlier ▸ tellsFailures_of_defaultPlan hfunctions hp

theorem tellsFailures_id : id.TellsFailures registry := by
  intro field tag applier h
  cases tag with
  | none => cases h
  | some tag =>
    simp only [id] at h
    split at h
    · cases h
    · obtain ⟨p, hp, happlier⟩ := map_eq_ok_iff.1 h
      exact Plan.run_of_applier? happlier ▸ tellsFailures_of_defaultPlan hfunctions hp

end Default

theorem tellsFailures_checkApplier (c : Constraint) : (checkApplier c).TellsFailures := by
  intro field r ctx
  refine Error.telling_of_isBatch fun e he => ?_
  simp only [checkApplier] at he
  split at he
  · cases he
    rfl
  · split at he
    · cases he
    · cases he
      rfl

theorem tellsFailures_validate (registry : Registry) : validate.TellsFailures registry := by
  intro field tag applier h
  cases tag with
  | none => cases h
  | some tag =>
    simp only [validate] at h
    split at h
    · cases h
    · obtain ⟨groups, -, happlier⟩ := map_eq_ok_iff.1 h
      have heach := Plan.each_of_forall tellsFailures_checkApplier
        (validatePlan registry.aliases groups)
      exact Plan.run_of_applier? happlier ▸ Plan.tellsFailures_run heach

theorem tellsFailures_accessApplier (principals : Principals) (mask : AccessMask)
    (isProvided : Bool) : (accessApplier principals mask isProvided).TellsFailures := by
  intro field r ctx e he
  simp only [accessApplier] at he
  split at he
  · split at he
    · cases he
    · split at he
      · cases he
      · next e' hstore =>
        cases he
        exact field.telling_store r field.zero e hstore
  · split at he
    · split at he
      · cases he
      · cases he
        simp [Error.leaves]
    · cases he

theorem tellsFailures_access (registry : Registry) : access.TellsFailures registry := by
  intro field tag applier h
  simp only [access] at h
  split at h
  · cases h
    exact tellsFailures_accessApplier _ _ _
  · cases h

/-- The tools that are always there. -/
def builtIn : List Tool := [default, id, validate, access]

/-- **What the built-in tools do tells its failures**, where the field functions tell theirs. -/
theorem tellsFailures_of_builtIn {tool : Tool} (htool : tool ∈ builtIn)
    (hfunctions : ∀ name f, registry.function? name = some f → f.TellsFailures) :
    tool.TellsFailures registry := by
  simp only [builtIn, List.mem_cons, List.not_mem_nil, or_false] at htool
  rcases htool with rfl | rfl | rfl | rfl
  · exact tellsFailures_default hfunctions
  · exact tellsFailures_id hfunctions
  · exact tellsFailures_validate registry
  · exact tellsFailures_access registry

end Tool

end FieldRules
