import FieldRules.Error

/-!
# The errors of a batch

A batch of errors that each concern one field keeps them in the order in which they came up, and its
outcome has just these as its leaves.

## Main definitions

* `Error.Concerns` — an error of one field, with its location.
* `Error.leavesOf` — the leaves of the error of a result, if it has one.
* `Error.Telling`, `ErrorBatch.IsTelling` — results and batches whose errors have leaves.

## Main statements

* `ErrorBatch.result_eq_ok_iff`, `ErrorBatch.leaves_of_result` — what the outcome of a batch says.
* `ErrorBatch.allLeaves_capture`, `ErrorBatch.leavesOf_result` — no leaf is lost on the way through
  a batch.
-/

namespace FieldRules

namespace Error

/-- An error is about the field at a location. -/
def Concerns (location : String) : Error → Prop
  | .unprocessable l _ => l = location
  | .validation l _ _ => l = location
  | .field l _ => l = location
  | .configuration _ => False
  | .batch _ => False

variable {e : Error} {errors : List Error} {location : String}

/-- Whether an error is a batch. -/
def isBatch : Error → Bool
  | .batch _ => true
  | _ => false

theorem Concerns.isBatch (h : e.Concerns location) : e.isBatch = false := by
  cases e <;> first | rfl | cases h

theorem Concerns.location? (h : e.Concerns location) : e.location? = some location := by
  cases e <;> first | exact congrArg some h | cases h

/-- An error that is no batch is its own only leaf. -/
theorem leaves_of_isBatch (h : e.isBatch = false) : e.leaves = [e] := by
  cases e <;> first | rfl | cases h

/-- Errors that are no batches have no other leaves than themselves. -/
theorem allLeaves_of_isBatch (h : ∀ e ∈ errors, e.isBatch = false) : allLeaves errors = errors := by
  induction errors with
  | nil => rfl
  | cons e rest ih =>
    rw [allLeaves, leaves_of_isBatch (h e List.mem_cons_self),
      ih fun e he => h e (List.mem_cons_of_mem _ he)]
    rfl

/-- Errors that are each about a field have no other leaves than themselves. -/
theorem allLeaves_of_concerns (h : ∀ e ∈ errors, ∃ location, e.Concerns location) :
    allLeaves errors = errors := by
  refine allLeaves_of_isBatch fun e he => ?_
  obtain ⟨location, hconcerns⟩ := h e he
  exact hconcerns.isBatch

/-- The leaves of the error of a result, if it has one. -/
def leavesOf {α : Type} : Except Error α → List Error
  | .ok _ => []
  | .error e => e.leaves

/-- A result whose error, if it has one, has leaves: it is not a batch of nothing. -/
def Telling {α : Type} (result : Except Error α) : Prop := ∀ e, result = .error e → e.leaves ≠ []

theorem telling_of_isBatch {α : Type} {result : Except Error α}
    (h : ∀ e, result = .error e → e.isBatch = false) : Telling result := by
  intro e he
  rw [leaves_of_isBatch (h e he)]
  simp

/-- Such a result has no leaves exactly when it has no error. -/
theorem Telling.leavesOf_eq_nil_iff {result : Except Error Unit} (h : Telling result) :
    leavesOf result = [] ↔ result = .ok () := by
  cases result with
  | ok u => simp [leavesOf]
  | error e => simp [leavesOf, h e rfl]

end Error

namespace ErrorBatch

variable {b : ErrorBatch} {e : Error}

/-- An error is added with all its leaves. -/
theorem allLeaves_push (b : ErrorBatch) (e : Error) :
    Error.allLeaves (b.push e).errors = Error.allLeaves b.errors ++ e.leaves := by
  cases e <;> simp [push, Error.allLeaves, Error.leaves]

/-- The error of a result is added with all its leaves. -/
theorem allLeaves_capture {α : Type} (b : ErrorBatch) (result : Except Error α) :
    Error.allLeaves (b.capture result).1.errors =
      Error.allLeaves b.errors ++ Error.leavesOf result := by
  cases result with
  | ok _ => simp [capture, Error.leavesOf]
  | error e => exact allLeaves_push b e

/-- An error that is no batch is added as it is. -/
theorem push_of_isBatch (h : e.isBatch = false) : b.push e = ⟨b.errors ++ [e]⟩ := by
  cases e <;> first | rfl | cases h

theorem push_of_concerns {location : String} (h : e.Concerns location) :
    b.push e = ⟨b.errors ++ [e]⟩ :=
  push_of_isBatch h.isBatch

/-- Errors that are no batches are added as they are. -/
theorem foldl_push_of_isBatch {errors : List Error} (h : ∀ e ∈ errors, e.isBatch = false)
    (b : ErrorBatch) : errors.foldl push b = ⟨b.errors ++ errors⟩ := by
  induction errors generalizing b with
  | nil => simp
  | cons e rest ih =>
    rw [List.foldl_cons, push_of_isBatch (h e List.mem_cons_self),
      ih fun e he => h e (List.mem_cons_of_mem _ he)]
    simp

/-- The outcome of a batch is good, or its only error, or all its errors together. -/
theorem result_cases (b : ErrorBatch) :
    b.errors = [] ∧ b.result = .ok () ∨
      (∃ e, b.errors = [e] ∧ b.result = .error e) ∨
      b.errors ≠ [] ∧ b.result = .error (.batch b.errors) := by
  obtain ⟨_ | ⟨e, _ | ⟨e', rest⟩⟩⟩ := b
  · exact .inl ⟨rfl, rfl⟩
  · exact .inr (.inl ⟨e, rfl, rfl⟩)
  · exact .inr (.inr ⟨List.cons_ne_nil _ _, rfl⟩)

/-- The outcome of a batch is good exactly when no error came up. -/
theorem result_eq_ok_iff : b.result = .ok () ↔ b.errors = [] := by
  obtain ⟨herrors, hresult⟩ | ⟨e, herrors, hresult⟩ | ⟨herrors, hresult⟩ := b.result_cases <;>
    simp [herrors, hresult]

/-- The outcome of a batch has the leaves of its errors. -/
theorem leaves_of_result (h : b.result = .error e) : e.leaves = Error.allLeaves b.errors := by
  obtain ⟨-, hresult⟩ | ⟨e', herrors, hresult⟩ | ⟨-, hresult⟩ := b.result_cases
  · cases hresult.symm.trans h
  · cases hresult.symm.trans h
    rw [herrors, Error.allLeaves, Error.allLeaves, List.append_nil]
  · cases hresult.symm.trans h
    rfl

theorem leavesOf_result (b : ErrorBatch) :
    Error.leavesOf b.result = Error.allLeaves b.errors := by
  cases hresult : b.result with
  | ok u => rw [result_eq_ok_iff.1 hresult]; rfl
  | error e => exact leaves_of_result hresult

/-! ## Batches in which something is told -/

/-- A batch without leaves has no errors. -/
def IsTelling (b : ErrorBatch) : Prop := Error.allLeaves b.errors = [] → b.errors = []

theorem isTelling_empty : empty.IsTelling := fun _ => rfl

theorem IsTelling.push (b : ErrorBatch) (he : e.leaves ≠ []) : (b.push e).IsTelling := by
  intro hnone
  rw [allLeaves_push, List.append_eq_nil_iff] at hnone
  exact absurd hnone.2 he

theorem IsTelling.capture {α : Type} {result : Except Error α} (hb : b.IsTelling)
    (h : Error.Telling result) : (b.capture result).1.IsTelling := by
  cases result with
  | ok a => exact hb
  | error e => exact .push b (h e rfl)

/-- The outcome of such a batch is good exactly when no leaf came up. -/
theorem IsTelling.result_eq_ok_iff (hb : b.IsTelling) :
    b.result = .ok () ↔ Error.allLeaves b.errors = [] := by
  rw [ErrorBatch.result_eq_ok_iff]
  constructor
  · intro hnone
    rw [hnone]
    rfl
  · exact hb

theorem IsTelling.telling_result (hb : b.IsTelling) : Error.Telling b.result := by
  intro e he hnone
  rw [leaves_of_result he] at hnone
  rw [hb.result_eq_ok_iff.2 hnone] at he
  cases he

end ErrorBatch

end FieldRules
