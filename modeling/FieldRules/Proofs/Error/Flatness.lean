import FieldRules.Proofs.Error.Collecting

/-!
# Batches that stay flat

An error is added to a batch as the errors that it lists: a batch as its items, every other error as
itself.  Only the outermost batch is taken apart in this way, so an item that is a batch again is
kept as it is.  A batch is therefore a list of leaves exactly as long as no call gives it such an
item; and then what comes out of it has none either, so that batches may be collected in batches.

## Main definitions

* `Error.listed`, `ErrorBatch.Call.listed` — what an error, and a call, is added as.
* `Error.IsFlat`, `ErrorBatch.Call.IsFlat` — no item is a batch again.

## Main statements

* `ErrorBatch.errors_after`, `ErrorBatch.errors_afterAll` — the errors of a batch after one call and
  after any number of them.
* `ErrorBatch.flat_afterAll_iff` — which calls leave a batch flat, and with it the number of its
  errors and its outcome true to the leaves.
-/

namespace FieldRules

namespace Error

variable {e : Error} {errors : List Error}

/-! ## Leaves and items -/

mutual

/-- No leaf is a batch. -/
theorem isBatch_of_mem_leaves (e : Error) : ∀ l ∈ e.leaves, l.isBatch = false := by
  cases e with
  | batch errors => exact isBatch_of_mem_allLeaves errors
  | _ =>
    intro l hl
    rw [List.mem_singleton.1 hl]
    rfl

theorem isBatch_of_mem_allLeaves (errors : List Error) :
    ∀ l ∈ allLeaves errors, l.isBatch = false := by
  cases errors with
  | nil =>
    intro l hl
    cases hl
  | cons e rest =>
    intro l hl
    rcases List.mem_append.1 hl with hl | hl
    · exact isBatch_of_mem_leaves e l hl
    · exact isBatch_of_mem_allLeaves rest l hl

end

/-- Errors are their own leaves exactly when none of them is a batch. -/
theorem allLeaves_eq_self_iff : allLeaves errors = errors ↔ ∀ e ∈ errors, e.isBatch = false := by
  constructor
  · intro h
    rw [← h]
    exact isBatch_of_mem_allLeaves errors
  · exact allLeaves_of_isBatch

/-- What an error is added to a batch as. -/
def listed : Error → List Error
  | .batch errors => errors
  | e => [e]

/-- The leaves of an error are those of what it lists. -/
theorem allLeaves_listed (e : Error) : allLeaves e.listed = e.leaves := by
  cases e <;> rfl

/-- An error that lists no batch. -/
def IsFlat (e : Error) : Prop := ∀ l ∈ e.listed, l.isBatch = false

/-- An error is flat exactly when it lists its leaves. -/
theorem isFlat_iff : e.IsFlat ↔ e.leaves = e.listed := by
  rw [← allLeaves_listed, allLeaves_eq_self_iff]
  rfl

end Error

namespace ErrorBatch

variable {b : ErrorBatch} {calls : List Call}

/-! ## Calls -/

/-- What a call adds to a batch. -/
def Call.listed : Call → List Error
  | .push e => e.listed
  | .capture (.ok _) => []
  | .capture (.error e) => e.listed

/-- A call that gives no batch with a batch in it. -/
def Call.IsFlat (call : Call) : Prop := ∀ l ∈ call.listed, l.isBatch = false

theorem errors_push (b : ErrorBatch) (e : Error) : (b.push e).errors = b.errors ++ e.listed := by
  cases e <;> rfl

/-- A call adds what it lists behind what is there. -/
theorem errors_after (b : ErrorBatch) (call : Call) :
    (b.after call).errors = b.errors ++ call.listed := by
  cases call with
  | push e => exact errors_push b e
  | capture result =>
    cases result with
    | ok a => exact (List.append_nil b.errors).symm
    | error e => exact errors_push b e

/-- The errors of a batch are what all calls list, in order. -/
theorem errors_afterAll (calls : List Call) :
    (afterAll calls).errors = calls.flatMap Call.listed := by
  induction calls using List.reverseRecOn with
  | nil => rfl
  | append_singleton calls call ih =>
    rw [afterAll] at ih ⊢
    rw [List.foldl_concat, errors_after, ih, List.flatMap_append, List.flatMap_singleton]

/-! ## What is told of a batch -/

theorem isEmpty_iff : b.isEmpty = true ↔ b.errors = [] := List.isEmpty_iff

/-- No error of a batch is a batch exactly when no call gives it such an item. -/
theorem forall_isBatch_afterAll_iff :
    (∀ e ∈ (afterAll calls).errors, e.isBatch = false) ↔ ∀ call ∈ calls, call.IsFlat := by
  simp only [errors_afterAll, List.forall_mem_flatMap]
  rfl

/-- Calls of this sort leave the leaves themselves in a batch. -/
theorem errors_afterAll_of_isFlat (h : ∀ call ∈ calls, call.IsFlat) :
    (afterAll calls).errors = calls.flatMap Call.leaves := by
  rw [← allLeaves_afterAll]
  exact (Error.allLeaves_of_isBatch (forall_isBatch_afterAll_iff.2 h)).symm

/-- The outcome of a batch in which no error is a batch lists none. -/
theorem isFlat_capture_result (h : ∀ e ∈ b.errors, e.isBatch = false) :
    (Call.capture b.result).IsFlat := by
  intro l hl
  rw [result.eq_def] at hl
  split at hl
  · cases hl
  · next e herrors =>
    -- an only error stands for itself and is no batch, so it lists itself alone
    have hbatch : e.isBatch = false := h e (by rw [herrors]; exact List.mem_singleton_self e)
    have hflat : e.IsFlat := Error.isFlat_iff.2 (by
      rw [Error.leaves_of_isBatch hbatch]
      cases e <;> first | rfl | cases hbatch)
    exact hflat l hl
  · exact h l hl

/-- **Which calls leave a batch flat.**  A batch holds what the calls list, and is empty, with a good
outcome, when they list nothing.  None of its errors is a batch, and it has as many errors as leaves,
is empty exactly when there are none, and fails exactly when there are some, if and only if no call
gives a batch with a batch in it; and then its outcome can be given to another batch in this way. -/
theorem flat_afterAll_iff (calls : List Call) :
    ((afterAll calls).errors = calls.flatMap Call.listed ∧
      ((afterAll calls).isEmpty = true ↔ calls.flatMap Call.listed = []) ∧
      ((afterAll calls).result = .ok () ↔ calls.flatMap Call.listed = [])) ∧
    (((∀ e ∈ (afterAll calls).errors, e.isBatch = false) ∧
        (afterAll calls).size = (calls.flatMap Call.leaves).length ∧
        ((afterAll calls).isEmpty = true ↔ calls.flatMap Call.leaves = []) ∧
        ((afterAll calls).result = .ok () ↔ calls.flatMap Call.leaves = [])) ↔
      ∀ call ∈ calls, call.IsFlat) ∧
    ((∀ call ∈ calls, call.IsFlat) → (Call.capture (afterAll calls).result).IsFlat) := by
  refine ⟨⟨errors_afterAll calls, ?_, ?_⟩, ⟨fun h => ?_, fun h => ?_⟩, fun h => ?_⟩
  · rw [isEmpty_iff, errors_afterAll]
  · rw [result_eq_ok_iff, errors_afterAll]
  · exact forall_isBatch_afterAll_iff.1 h.1
  · have herrors := errors_afterAll_of_isFlat h
    refine ⟨forall_isBatch_afterAll_iff.2 h, ?_, ?_, ?_⟩
    · rw [size, herrors]
    · rw [isEmpty_iff, herrors]
    · rw [result_eq_ok_iff, herrors]
  · exact isFlat_capture_result (forall_isBatch_afterAll_iff.2 h)

/-- Two failures, one of them of a field with a batch of its own, as one pass hands them to the next,
and a pass without any. -/
def handedOn : List Call :=
  [.push (.batch [.configuration "a", .field "x" (.batch [])]), .push (.batch []), .capture (.ok 1)]

theorem flat_afterAll_handedOn :
    (∀ call ∈ handedOn, call.IsFlat) ∧ (afterAll handedOn).size = 2 ∧
      (Call.capture (afterAll handedOn).result).IsFlat := by
  have hflat : ∀ call ∈ handedOn, call.IsFlat := by
    simp [handedOn, Call.IsFlat, Call.listed, Error.listed, Error.isBatch]
  obtain ⟨-, hiff, hresult⟩ := flat_afterAll_iff handedOn
  exact ⟨hflat, (hiff.2 hflat).2.1, hresult hflat⟩

/-- A batch that lists an empty batch is taken apart once: one error is counted, and the outcome is
an error without leaves. -/
theorem not_flat_afterAll_nested :
    (∃ e ∈ (afterAll [.push (.batch [.batch []])]).errors, e.isBatch = true) ∧
      (afterAll [.push (.batch [.batch []])]).size ≠
        ([Call.push (.batch [.batch []])].flatMap Call.leaves).length ∧
      (afterAll [.push (.batch [.batch []])]).isEmpty = false ∧
      ∃ e, (afterAll [.push (.batch [.batch []])]).result = .error e ∧ e.leaves = [] :=
  ⟨⟨.batch [], List.mem_singleton_self _, rfl⟩, by decide, rfl, .batch [], rfl, rfl⟩

end ErrorBatch

end FieldRules
