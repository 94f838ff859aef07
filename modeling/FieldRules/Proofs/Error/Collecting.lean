import FieldRules.Proofs.Error
import Mathlib.Data.List.Basic
import Mathlib.Data.List.Induction

/-!
# Errors on their way through a batch

A pass gives its errors to a batch call by call, and what comes out in the end has the leaves of all
of them, in the order of the calls: none is lost, none is told twice, and none changes its place.
A caller who asks only how grave the whole was is told how grave its gravest leaf was.

## Main definitions

* `ErrorBatch.Call` — what a batch is given during a pass.
* `ErrorBatch.after`, `ErrorBatch.afterAll` — a batch after a call, and after calls in order.

## Main statements

* `Error.kind_eq_gravest_leaves` — an error is as grave as its gravest leaf.
* `ErrorBatch.allLeaves_after`, `ErrorBatch.allLeaves_afterAll` — the leaves of a batch after one
  call and after any number of them.
* `ErrorBatch.collects_leaves` — what a pass tells in the end.
-/

namespace FieldRules

namespace ErrorKind

theorem max_assoc (a b c : ErrorKind) : (a.max b).max c = a.max (b.max c) := by
  cases a <;> cases b <;> cases c <;> rfl

theorem validation_max (a : ErrorKind) : validation.max a = a := by cases a <;> rfl

theorem max_validation (a : ErrorKind) : a.max .validation = a := by cases a <;> rfl

theorem rank_max (a b : ErrorKind) : (a.max b).rank = Nat.max a.rank b.rank := by
  cases a <;> cases b <;> rfl

end ErrorKind

namespace Error

variable {e : Error} {errors : List Error}

/-! ## Gravity -/

theorem gravest_append (errors more : List Error) :
    gravest (errors ++ more) = (gravest errors).max (gravest more) := by
  induction errors with
  | nil => exact (ErrorKind.validation_max _).symm
  | cons e rest ih => rw [List.cons_append, gravest, gravest, ih, ErrorKind.max_assoc]

theorem gravest_singleton (e : Error) : gravest [e] = e.kind := ErrorKind.max_validation e.kind

mutual

/-- **An error is as grave as its gravest leaf.** -/
theorem kind_eq_gravest_leaves (e : Error) : e.kind = gravest e.leaves := by
  cases e with
  | batch errors => exact gravest_eq_gravest_allLeaves errors
  | configuration message => exact (gravest_singleton _).symm
  | unprocessable location message => exact (gravest_singleton _).symm
  | validation location scope constraint => exact (gravest_singleton _).symm
  | field location source => exact (gravest_singleton _).symm

theorem gravest_eq_gravest_allLeaves (errors : List Error) :
    gravest errors = gravest (allLeaves errors) := by
  cases errors with
  | nil => rfl
  | cons e rest =>
    rw [gravest, allLeaves, gravest_append, kind_eq_gravest_leaves e,
      gravest_eq_gravest_allLeaves rest]

end

/-- None of some errors is graver than the gravest. -/
theorem rank_kind_le_gravest (h : e ∈ errors) : e.kind.rank ≤ (gravest errors).rank := by
  induction errors with
  | nil => cases h
  | cons first rest ih =>
    rw [gravest, ErrorKind.rank_max]
    rcases List.mem_cons.1 h with rfl | h
    · exact Nat.le_max_left _ _
    · exact Nat.le_trans (ih h) (Nat.le_max_right _ _)

/-- One of some errors is the gravest. -/
theorem exists_kind_eq_gravest (h : errors ≠ []) : ∃ e ∈ errors, e.kind = gravest errors := by
  induction errors with
  | nil => exact absurd rfl h
  | cons first rest ih =>
    rw [gravest, ErrorKind.max]
    split
    · next hlt =>
      -- no error is less grave than no errors at all
      have hrest : rest ≠ [] := by
        rintro rfl
        exact Nat.not_lt_zero _ hlt
      obtain ⟨e, he, hkind⟩ := ih hrest
      exact ⟨e, List.mem_cons_of_mem _ he, hkind⟩
    · exact ⟨first, List.mem_cons_self, rfl⟩

end Error

namespace ErrorBatch

/-! ## Calls -/

/-- What a batch is given during a pass: an error, or a result that may have one. -/
inductive Call where
  | push (e : Error)
  | capture {α : Type} (result : Except Error α)

/-- The leaves of the error that a batch is given, if there is one. -/
def Call.leaves : Call → List Error
  | .push e => e.leaves
  | .capture result => Error.leavesOf result

/-- A batch after a call. -/
def after (b : ErrorBatch) : Call → ErrorBatch
  | .push e => b.push e
  | .capture result => (b.capture result).1

/-- The batch that calls in order make of the empty one. -/
def afterAll (calls : List Call) : ErrorBatch := calls.foldl after empty

/-- A call adds the leaves of what it gives behind those that are there. -/
theorem allLeaves_after (b : ErrorBatch) (call : Call) :
    Error.allLeaves (b.after call).errors = Error.allLeaves b.errors ++ call.leaves := by
  cases call with
  | push e => exact allLeaves_push b e
  | capture result => exact allLeaves_capture b result

/-- The leaves of a batch are those of all calls, in order. -/
theorem allLeaves_afterAll (calls : List Call) :
    Error.allLeaves (afterAll calls).errors = calls.flatMap Call.leaves := by
  induction calls using List.reverseRecOn with
  | nil => rfl
  | append_singleton calls call ih =>
    rw [afterAll] at ih ⊢
    rw [List.foldl_concat, allLeaves_after, ih, List.flatMap_append, List.flatMap_singleton]

/-- **What a pass tells in the end.**  The outcome of a batch has the leaves of all the errors that it
was given, in the order of the calls.  And every error, however batches are nested in it, is as
grave as its gravest leaf, or as little grave as can be if it has none. -/
theorem collects_leaves :
    (∀ calls : List Call, Error.leavesOf (afterAll calls).result = calls.flatMap Call.leaves) ∧
      ∀ e : Error, (∀ l ∈ e.leaves, l.kind.rank ≤ e.kind.rank) ∧
        (e.leaves = [] ∧ e.kind = .validation ∨ ∃ l ∈ e.leaves, l.kind = e.kind) := by
  refine ⟨fun calls => ?_, fun e => ?_⟩
  · rw [leavesOf_result, allLeaves_afterAll]
  · rw [Error.kind_eq_gravest_leaves e]
    refine ⟨fun l hl => Error.rank_kind_le_gravest hl, ?_⟩
    cases hleaves : e.leaves with
    | nil => exact .inl ⟨rfl, rfl⟩
    | cons l rest => exact .inr (Error.exists_kind_eq_gravest (List.cons_ne_nil l rest))

/-- A batch in a batch, an empty one, a result without an error, and an error of a field that is a
batch itself and so a leaf. -/
theorem collects_leaves_nested :
    Error.leavesOf (afterAll [
        .push (.batch [.configuration "a", .batch [.unprocessable "x" "b"]]),
        .capture (.ok 1), .push (.batch []),
        .capture (α := Unit) (.error (.field "y" (.batch [.configuration "c"])))]).result =
      [.configuration "a", .unprocessable "x" "b", .field "y" (.batch [.configuration "c"])] ∧
    ∃ l ∈ (Error.batch [.unprocessable "x" "b", .field "y" (.batch [.configuration "c"])]).leaves,
      l.kind = .configuration := by
  refine ⟨collects_leaves.1 _, ?_⟩
  exact (collects_leaves.2 (.batch [.unprocessable "x" "b",
    .field "y" (.batch [.configuration "c"])])).2.resolve_left fun h => List.cons_ne_nil _ _ h.1

end ErrorBatch

end FieldRules
