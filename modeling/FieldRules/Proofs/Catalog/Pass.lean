import FieldRules.Catalog
import FieldRules.Proofs.Error

/-!
# Passes

A pass of one tool is a run over what the tool does to the fields, in the order of the walk.  Where
the tool only looks at the fields, all that such a run leaves behind are the errors of the fields, in
that order.

## Main definitions

* `Outcome.checked` — what looking at a field leaves behind.

## Main statements

* `Catalog.applyTools_eq_foldl`, `Catalog.applyTools_singleton` — what a pass leaves behind.
* `Catalog.Pass.foldl_checked` — a run that only looks at the fields.
-/

namespace FieldRules

/-- What looking at a field leaves behind: nothing has changed, and there may be an error. -/
def Outcome.checked (r : Record) (ctx : Context) (failure? : Option Error) : Outcome :=
  ⟨r, ctx, match failure? with
    | none => .ok ()
    | some e => .error e⟩

namespace Catalog

variable {c : Catalog} {r : Record} {table : FieldTable} {name : String}

/-- What a finished pass leaves behind. -/
def Pass.outcome (p : Pass) : Outcome := ⟨p.record, p.context, p.errors.result⟩

/-- A pass that begins runs over what the tools do to the fields. -/
theorem applyTools_eq_foldl {names : List String} (hnames : ∀ name ∈ names, name ∈ c.toolNames)
    (htable : c.introspect r.type = .ok table) (ctx : Context) :
    c.applyTools names r ctx =
      ((names.flatMap table.bucket).foldl Pass.step ⟨r, ctx, .empty⟩).outcome := by
  have hknown : names.find? (fun name => !c.toolNames.contains name) = none := by
    rw [List.find?_eq_none]
    intro name hname
    simpa using hnames name hname
  rw [applyTools, hknown]
  simp only [htable, runPass, Pass.outcome]

/-- A pass of one tool runs over what the tool does to the fields. -/
theorem applyTools_singleton (hname : name ∈ c.toolNames)
    (htable : c.introspect r.type = .ok table) (ctx : Context) :
    c.applyTools [name] r ctx =
      ((table.bucket name).foldl Pass.step ⟨r, ctx, .empty⟩).outcome := by
  rw [applyTools_eq_foldl (by simpa using hname) htable, List.flatMap_singleton]

/-! ## Runs that only look at the fields -/

theorem attributed_of_concerns {e : Error} {location : String} (h : e.Concerns location) :
    attributed location e = e := by
  have hlocation := h.location?
  cases e with
  | configuration message => cases h
  | batch errors => cases h
  | _ => simp only [attributed, hlocation, if_true]

/-- What one step does that only looks at a field. -/
theorem Pass.step_checked {p : Pass} {f : Field} {applier : Applier} {failure? : Option Error}
    (happlier : applier f p.record p.context = .checked p.record p.context failure?)
    (hconcerns : ∀ e, failure? = some e → e.Concerns f.location) :
    p.step (f, applier) = ⟨p.record, p.context, ⟨p.errors.errors ++ failure?.toList⟩⟩ := by
  cases failure? with
  | none => simp [Pass.step, happlier, Outcome.checked]
  | some e =>
    have he := hconcerns e rfl
    simp [Pass.step, happlier, Outcome.checked, attributed_of_concerns he,
      ErrorBatch.push_of_concerns he]

/-- A run that only looks at the fields leaves their errors behind, in the order of the fields. -/
theorem Pass.foldl_checked {p : Pass} {fields : List Field} {bound : Field → List Applier}
    {failure? : Field → Option Error}
    (hbound : ∀ f ∈ fields, (bound f = [] ∧ failure? f = none) ∨ ∃ applier, bound f = [applier] ∧
      applier f p.record p.context = .checked p.record p.context (failure? f))
    (hconcerns : ∀ f ∈ fields, ∀ e, failure? f = some e → e.Concerns f.location) :
    (fields.flatMap fun f => (bound f).map fun applier => (f, applier)).foldl Pass.step p =
      ⟨p.record, p.context, ⟨p.errors.errors ++ fields.filterMap failure?⟩⟩ := by
  induction fields generalizing p with
  | nil => simp
  | cons f rest ih =>
    have hrest := fun g hg => hbound g (List.mem_cons_of_mem f hg)
    have hconcerns' := fun g hg => hconcerns g (List.mem_cons_of_mem f hg)
    rw [List.flatMap_cons, List.foldl_append]
    rcases hbound f List.mem_cons_self with ⟨hnothing, hnone⟩ | ⟨applier, hone, happlier⟩
    · rw [hnothing, List.map_nil, List.foldl_nil, ih hrest hconcerns', List.filterMap_cons_none hnone]
    · rw [hone, List.map_singleton, List.foldl_cons, List.foldl_nil,
        Pass.step_checked happlier (hconcerns f List.mem_cons_self),
        ih (p := ⟨p.record, p.context, ⟨p.errors.errors ++ (failure? f).toList⟩⟩) hrest hconcerns']
      cases hfailure : failure? f <;> simp [hfailure]

end Catalog

end FieldRules
