import FieldRules.Proofs.Catalog.Pass
import FieldRules.Proofs.FieldTable
import FieldRules.Proofs.Tool.Telling
import FieldRules.Reference

/-!
# What a pass over a record does

A pass visits one binding after the other, the bindings of the first tool in the order of the walk,
then those of the next.  Each visit starts from what the one before it left behind, whether that
failed or not, and what it fails with is told of its field.  When no binding fails without saying
so, the pass succeeds exactly when all its visits do, and else its error has the leaves that its
visits tell, in their order.

## Main definitions

* `Error.within` — an error as it is told of a field.
* `Visit`, `Run` — what one binding did, and visits each of which goes on from the one before.
* `Catalog.bindings` — what some tools do to the fields.

## Main statements

* `Catalog.Pass.exists_run` — a pass is a run over its bindings.
* `Catalog.applyTools_runs` — the outcome of a pass by its run.
-/

namespace FieldRules

/-! ## Errors told of a field -/

/-- An error as it is told of a field: attributed to the field, unless it is located there. -/
def Error.within (location : String) (e : Error) : Error :=
  if e.location? = some location then e else .field location e

@[simp] theorem Error.location?_within (location : String) (e : Error) :
    (e.within location).location? = some location := by
  rw [within]
  split
  · assumption
  · rfl

namespace Catalog

mutual

/-- Attributing an error to a field attributes each of its leaves. -/
theorem leaves_attributed (location : String) (e : Error) :
    (attributed location e).leaves = e.leaves.map (Error.within location) := by
  cases e with
  | batch errors => simpa [attributed] using allLeaves_allAttributed location errors
  | configuration message => rfl
  | unprocessable l message | validation l scope constraint | field l source =>
    simp only [attributed, Error.leaves, List.map_cons, List.map_nil, Error.within]
    split <;> rfl

theorem allLeaves_allAttributed (location : String) (errors : List Error) :
    Error.allLeaves (allAttributed location errors) =
      (Error.allLeaves errors).map (Error.within location) := by
  cases errors with
  | nil => rfl
  | cons e rest =>
    rw [allAttributed, Error.allLeaves, Error.allLeaves, List.map_append,
      leaves_attributed location e, allLeaves_allAttributed location rest]

end

end Catalog

/-! ## Runs -/

/-- What one binding did. -/
structure Visit where
  field : Field
  applier : Applier
  outcome : Outcome

namespace Visit

/-- The binding that was applied. -/
def binding (v : Visit) : Field × Applier := (v.field, v.applier)

/-- What is told of a visit: the leaves of its error, each at its field. -/
def told (v : Visit) : List Error :=
  (Error.leavesOf v.outcome.result).map (Error.within v.field.location)

theorem location?_of_mem_told {v : Visit} {leaf : Error} (h : leaf ∈ v.told) :
    leaf.location? = some v.field.location := by
  obtain ⟨e, -, rfl⟩ := List.mem_map.1 h
  exact Error.location?_within v.field.location e

/-- Nothing is told of a visit exactly when it did not fail. -/
theorem told_eq_nil_iff {v : Visit} (h : Error.Telling v.outcome.result) :
    v.told = [] ↔ v.outcome.result = .ok () := by
  rw [told, List.map_eq_nil_iff, h.leavesOf_eq_nil_iff]

end Visit

/-- Visits from a record and a context, each of which goes on from what the one before it left. -/
inductive Run : Record → Context → List Visit → Record → Context → Prop
  | done (r : Record) (ctx : Context) : Run r ctx [] r ctx
  | visit (f : Field) (applier : Applier) {r r' : Record} {ctx ctx' : Context}
      {visits : List Visit} :
      Run (applier f r ctx).record (applier f r ctx).context visits r' ctx' →
        Run r ctx (⟨f, applier, applier f r ctx⟩ :: visits) r' ctx'

/-- Where the appliers of a run tell their failures, its visits do. -/
theorem Run.telling {r r' : Record} {ctx ctx' : Context} {visits : List Visit}
    (h : Run r ctx visits r' ctx') (htells : ∀ v ∈ visits, v.applier.TellsFailures) :
    ∀ v ∈ visits, Error.Telling v.outcome.result := by
  induction h with
  | done r ctx =>
    intro v hv
    cases hv
  | visit f applier _ ih =>
    intro v hv
    rcases List.mem_cons.1 hv with rfl | hv
    · exact htells _ List.mem_cons_self f _ _
    · exact ih (fun v hv => htells v (List.mem_cons_of_mem _ hv)) v hv

namespace Catalog

open FieldTable

variable {c : Catalog} {r : Record} {table : FieldTable} {names : List String}

/-- Adds the error of a visit to a field, if it has one, to those of a pass. -/
def Pass.tell (errors : ErrorBatch) (f : Field) (result : Except Error Unit) : ErrorBatch :=
  (errors.capture (result.mapError (attributed f.location))).1

theorem Pass.step_eq (p : Pass) (f : Field) (applier : Applier) :
    p.step (f, applier) =
      ⟨(applier f p.record p.context).record, (applier f p.record p.context).context,
        Pass.tell p.errors f (applier f p.record p.context).result⟩ := by
  simp only [Pass.step, Pass.tell]
  cases (applier f p.record p.context).result <;> rfl

theorem Pass.allLeaves_tell (errors : ErrorBatch) (v : Visit) :
    Error.allLeaves (Pass.tell errors v.field v.outcome.result).errors =
      Error.allLeaves errors.errors ++ v.told := by
  rw [Pass.tell, ErrorBatch.allLeaves_capture, Visit.told]
  cases v.outcome.result with
  | ok u => rfl
  | error e => exact congrArg _ (leaves_attributed v.field.location e)

theorem Pass.isTelling_tell {errors : ErrorBatch} (herrors : errors.IsTelling) (f : Field)
    {result : Except Error Unit} (h : Error.Telling result) :
    (Pass.tell errors f result).IsTelling := by
  refine herrors.capture fun e he => ?_
  cases result with
  | ok u => cases he
  | error e' =>
    cases he
    rw [leaves_attributed]
    simpa using h e' rfl

/-- **A pass is a run over its bindings**, and its errors have the leaves that the visits tell. -/
theorem Pass.exists_run (p : Pass) (bindings : List (Field × Applier)) :
    ∃ visits, visits.map Visit.binding = bindings ∧
      Run p.record p.context visits (bindings.foldl step p).record
        (bindings.foldl step p).context ∧
      Error.allLeaves (bindings.foldl step p).errors.errors =
        Error.allLeaves p.errors.errors ++ visits.flatMap Visit.told ∧
      (p.errors.IsTelling → (∀ v ∈ visits, Error.Telling v.outcome.result) →
        (bindings.foldl step p).errors.IsTelling) := by
  induction bindings generalizing p with
  | nil => exact ⟨[], rfl, .done _ _, by simp, fun h _ => h⟩
  | cons b rest ih =>
    obtain ⟨f, applier⟩ := b
    obtain ⟨visits, hbindings, hrun, hleaves, htelling⟩ := ih (p.step (f, applier))
    let v : Visit := ⟨f, applier, applier f p.record p.context⟩
    refine ⟨v :: visits, congrArg _ hbindings, ?_, ?_, ?_⟩
    · have hrecord : (p.step (f, applier)).record = v.outcome.record := by rw [Pass.step_eq]
      have hcontext : (p.step (f, applier)).context = v.outcome.context := by rw [Pass.step_eq]
      rw [hrecord, hcontext] at hrun
      exact .visit f applier hrun
    · have hfirst := Pass.allLeaves_tell p.errors v
      rw [List.foldl_cons, hleaves, List.flatMap_cons, ← List.append_assoc, ← hfirst,
        Pass.step_eq]
    · intro hp hvisits
      refine htelling ?_ fun v' hv' => hvisits v' (List.mem_cons_of_mem v hv')
      rw [Pass.step_eq]
      exact Pass.isTelling_tell hp f (hvisits v List.mem_cons_self)

/-- What some tools do to the fields: the tools one after the other, each in the order of the
fields. -/
def bindings (c : Catalog) (table : FieldTable) (names : List String) : List (Field × Applier) :=
  names.flatMap fun name => table.fields.flatMap fun f =>
    (boundAs c.registry f name c.tools).map fun applier => (f, applier)

/-- A pass that begins is a run over what the tools do to the fields. -/
theorem applyTools_eq (hnames : ∀ name ∈ names, name ∈ c.toolNames)
    (htable : c.introspect r.type = .ok table) (ctx : Context) :
    c.applyTools names r ctx = ((c.bindings table names).foldl Pass.step ⟨r, ctx, .empty⟩).outcome := by
  have hbindings : names.flatMap table.bucket = c.bindings table names :=
    List.flatMap_congr fun name _ => bucket_eq htable name
  rw [applyTools_eq_foldl hnames htable, hbindings]

/-- A pass does not begin where a name is no tool's or the tags of the type are mistaken. -/
theorem applyTools_of_unknown
    (h : (∃ name ∈ names, name ∉ c.toolNames) ∨ ∃ e, c.introspect r.type = .error e)
    (ctx : Context) : ∃ e, c.applyTools names r ctx = ⟨r, ctx, .error e⟩ := by
  rw [applyTools]
  cases hunknown : names.find? fun name => !c.toolNames.contains name with
  | some name => exact ⟨_, rfl⟩
  | none =>
    rcases h with ⟨name, hname, hnot⟩ | ⟨e, he⟩
    · have hknown := List.find?_eq_none.1 hunknown name hname
      simp [hnot] at hknown
    · exact ⟨e, by simp only [he]⟩

/-- The built-in tools tell their failures. -/
theorem tellsFailures_of_mem_bindings (hbuiltIn : ∀ e ∈ c.tools, e.2 ∈ Tool.builtIn)
    (hfunctions : ∀ name f, c.registry.function? name = some f → f.TellsFailures)
    (htable : c.introspect r.type = .ok table) {b : Field × Applier}
    (hb : b ∈ c.bindings table names) : b.2.TellsFailures := by
  obtain ⟨name, -, hb⟩ := List.mem_flatMap.1 hb
  rw [← bucket_eq htable] at hb
  obtain ⟨-, e, he, -, happlier⟩ := exists_tool_of_mem_bucket htable hb
  exact Tool.tellsFailures_of_builtIn (hbuiltIn e he) hfunctions _ _ _ happlier

/-- **What a pass does.**  Where a name is no tool's or the tags of the type are mistaken, it fails
and changes nothing.  Otherwise it visits every binding of the tools, in order, each on what the one
before left behind, failed or not.  Where the appliers tell their failures, as those of the built-in
tools do when the field functions do, it succeeds exactly when all the visits do; else its error has
the leaves that are told of them, in order and each at the field of its visit. -/
theorem applyTools_runs (c : Catalog) (names : List String) (r : Record) (ctx : Context) :
    ((∃ name ∈ names, name ∉ c.toolNames) ∨ (∃ e, c.introspect r.type = .error e) →
        ∃ e, c.applyTools names r ctx = ⟨r, ctx, .error e⟩) ∧
      ∀ table, (∀ name ∈ names, name ∈ c.toolNames) → c.introspect r.type = .ok table →
        (∃ visits, visits.map Visit.binding = c.bindings table names ∧
          Run r ctx visits (c.applyTools names r ctx).record (c.applyTools names r ctx).context ∧
          ((∀ b ∈ c.bindings table names, b.2.TellsFailures) →
            ((c.applyTools names r ctx).result = .ok () ↔
              ∀ v ∈ visits, v.outcome.result = .ok ()) ∧
            ∀ e, (c.applyTools names r ctx).result = .error e →
              e.leaves = visits.flatMap Visit.told ∧
              ∀ v ∈ visits, ∀ leaf ∈ v.told, leaf.location? = some v.field.location)) ∧
        ((∀ e ∈ c.tools, e.2 ∈ Tool.builtIn) →
          (∀ name f, c.registry.function? name = some f → f.TellsFailures) →
          ∀ b ∈ c.bindings table names, b.2.TellsFailures) := by
  refine ⟨fun h => applyTools_of_unknown h ctx, fun table hnames htable => ⟨?_,
    fun hbuiltIn hfunctions b hb => tellsFailures_of_mem_bindings hbuiltIn hfunctions htable hb⟩⟩
  obtain ⟨visits, hbindings, hrun, hleaves, htelling⟩ :=
    Pass.exists_run ⟨r, ctx, .empty⟩ (c.bindings table names)
  rw [applyTools_eq hnames htable]
  refine ⟨visits, hbindings, hrun, fun htells => ?_⟩
  have hvisits : ∀ v ∈ visits, Error.Telling v.outcome.result := by
    refine hrun.telling fun v hv => htells v.binding ?_
    rw [← hbindings]
    exact List.mem_map_of_mem hv
  have htold : ∀ v ∈ visits, (v.told = [] ↔ v.outcome.result = .ok ()) :=
    fun v hv => Visit.told_eq_nil_iff (hvisits v hv)
  have hresult := (htelling ErrorBatch.isTelling_empty hvisits).result_eq_ok_iff
  have hall := hleaves.trans (List.nil_append _)
  constructor
  · refine hresult.trans ?_
    rw [hall, List.flatMap_eq_nil_iff]
    exact forall₂_congr htold
  · intro e he
    exact ⟨(ErrorBatch.leaves_of_result he).trans hall,
      fun v _ leaf hleaf => Visit.location?_of_mem_told hleaf⟩

/-- A book whose title and author must not be blank, and whose count of pages has a default. -/
def book : RecordType :=
  ⟨Reference.info "Book" [], [
    Reference.plain "title" .text [(Tool.validateName, "minlen(1)")],
    Reference.plain "pages" (.int .w64) [(Tool.defaultName, "=7")],
    Reference.plain "author" .text [(Tool.validateName, "minlen(1)")]]⟩

theorem builtIn_of_mem_tools_new : ∀ e ∈ new.tools, e.2 ∈ Tool.builtIn := by
  intro e he
  have htools : new.tools = [(Tool.accessName, Tool.access), (Tool.defaultName, Tool.default),
    (Tool.idName, Tool.id), (Tool.validateName, Tool.validate)] := rfl
  rw [htools] at he
  simp only [List.mem_cons, List.not_mem_nil, or_false] at he
  rcases he with rfl | rfl | rfl | rfl <;> simp [Tool.builtIn]

theorem tellsFailures_of_function?_new (name : String) (f : FieldFunction)
    (h : new.registry.function? name = some f) : f.TellsFailures := by
  have hfunctions : new.registry.functions =
      [("$_scope", scopeFunction), ("$_seq", sequenceFunction)] := rfl
  have hmem := Dict.mem_of_find?_eq_some h
  rw [hfunctions] at hmem
  simp only [List.mem_cons, Prod.mk.injEq, List.not_mem_nil, or_false] at hmem
  intro r field ctx e he
  rcases hmem with ⟨-, rfl⟩ | ⟨-, rfl⟩ <;> cases he

/-- A book without title and author fails twice, and is given its pages all the same. -/
theorem applyTools_runs_book :
    ∃ table, new.introspect book.zero.type = .ok table ∧ ∃ visits : List Visit,
      visits.map Visit.binding = new.bindings table [Tool.validateName, Tool.defaultName] ∧
      (∃ e, (new.applyTools [Tool.validateName, Tool.defaultName] book.zero .empty).result =
          .error e ∧ e.leaves = visits.flatMap Visit.told ∧
        e.leaves.map Error.location? = [some "title", some "author"]) ∧
      ((new.applyTools [Tool.validateName, Tool.defaultName]
        book.zero .empty).record.get? "pages").map Value.isZero = some false := by
  have hbuilds : (new.introspect book.zero.type).isOk = true := by decide +kernel
  have htold : (new.applyTools [Tool.validateName, Tool.defaultName] book.zero .empty).result.mapError
      (fun e => e.leaves.map Error.location?) = .error [some "title", some "author"] := by
    decide +kernel
  have hpages : ((new.applyTools [Tool.validateName, Tool.defaultName]
      book.zero .empty).record.get? "pages").map Value.isZero = some false := by
    decide +kernel
  cases htable : new.introspect book.zero.type with
  | error e =>
    rw [htable] at hbuilds
    cases hbuilds
  | ok table =>
    obtain ⟨⟨visits, hbindings, -, houtcome⟩, htells⟩ :=
      (applyTools_runs new [Tool.validateName, Tool.defaultName] book.zero .empty).2 table
        (by decide) htable
    have hbuiltIn := htells builtIn_of_mem_tools_new tellsFailures_of_function?_new
    cases hresult : (new.applyTools [Tool.validateName, Tool.defaultName] book.zero .empty).result with
    | ok u =>
      rw [hresult] at htold
      cases htold
    | error e =>
      rw [hresult] at htold
      have hleaves := ((houtcome hbuiltIn).2 e hresult).1
      exact ⟨table, rfl, visits, hbindings, ⟨e, rfl, hleaves, Except.error.inj htold⟩, hpages⟩

end Catalog

end FieldRules
