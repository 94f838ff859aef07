import FieldRules.Proofs.Context.Path
import Mathlib.Algebra.Ring.Int.Defs
import Mathlib.Data.List.Basic

/-!
# Runs on a tree of contexts

Steps are addressed to contexts by their paths, in any order: those to a context, to the ones above
and below it and to its neighbours may follow each other at will, and all of them use keys and
counters of the same names.  Still each context goes its own way, as if nothing but the steps
addressed to it had been done.  So its counters are counters: nobody else moves them, and the totals
that are handed out follow each other.

## Main definitions

* `Context.Step`, `Context.Call` — what is done to a context, and to the one at a path.
* `Context.run` — what is answered in order, and the context in the end.
* `Context.stepsTo`, `Context.answersTo` — the steps addressed to a path, and their answers.
* `Context.increments`, `Context.totals` — what is added to a counter, and what is answered to it.

## Main statements

* `Context.Call.own_perform_of_ne`, `Context.own_run` — the frame of one call, and of any number.
* `Context.totals_run`, `Context.counter_run` — a counter along a run.
* `Context.isSome_at?_run` — which contexts are there after a run.
* `Context.run_isolates` — all of it for any calls on any tree of contexts.
-/

namespace FieldRules.Context

/-- What can be done to a context. -/
inductive Step where
  | set (key : String) (value : Value)
  | setScope (scope : String)
  | increment (name : String) (amount : Int64)
  | project (name : String) (value : Value)
  | takeProjection

/-- What is answered to a step. -/
inductive Answer where
  | done
  | total (amount : Int64)
  | taken (projection : Dict Value)

/-- Does a step. -/
def Step.perform : Step → Context → Answer × Context
  | .set key value, c => (.done, c.set key value)
  | .setScope scope, c => (.done, c.setScope scope)
  | .increment name amount, c => (.total (c.increment name amount).1, (c.increment name amount).2)
  | .project name value, c => (.done, c.project name value)
  | .takeProjection, c => (.taken c.takeProjection.1, c.takeProjection.2)

/-- A step addressed to the context at a path. -/
structure Call where
  path : List String
  step : Step

/-- Does a step on the context at its path. -/
def Call.perform (call : Call) (c : Context) : Answer × Context :=
  c.stepAt call.step.perform call.path

/-- Does one thing after the other, and collects the answers. -/
def run {σ : Type} (perform : σ → Context → Answer × Context) :
    List σ → Context → List Answer × Context
  | [], c => ([], c)
  | s :: rest, c =>
    ((perform s c).1 :: (run perform rest (perform s c).2).1, (run perform rest (perform s c).2).2)

/-- The steps addressed to a path, in order. -/
def stepsTo (path : List String) (calls : List Call) : List Step :=
  (calls.filter fun call => call.path = path).map Call.step

/-- The answers to the steps addressed to a path, in order. -/
def answersTo (path : List String) (calls : List Call) (answers : List Answer) : List Answer :=
  ((calls.zip answers).filter fun e => e.1.path = path).map Prod.snd

/-- What a step adds to a counter, if it increments this one. -/
def Step.amount? (name : String) : Step → Option Int64
  | .increment name' amount => if name' = name then some amount else none
  | _ => none

/-- The total of an answer, if it is one. -/
def Answer.total? : Answer → Option Int64
  | .total amount => some amount
  | _ => none

/-- What steps add to a counter, one after the other. -/
def increments (name : String) (steps : List Step) : List Int64 :=
  steps.filterMap (Step.amount? name)

/-- What is answered to the steps that increment a counter, one after the other. -/
def totals (name : String) (steps : List Step) (answers : List Answer) : List Int64 :=
  (((steps.zip answers).filter fun e => (e.1.amount? name).isSome).map Prod.snd).filterMap
    Answer.total?

/-- What is added to a counter of the context at a path, in order. -/
def addedTo (path : List String) (name : String) (calls : List Call) : List Int64 :=
  increments name (stepsTo path calls)

/-- What is answered to the increments of a counter of the context at a path, in order. -/
def totalsOf (path : List String) (name : String) (calls : List Call) (answers : List Answer) :
    List Int64 :=
  totals name (stepsTo path calls) (answersTo path calls answers)

variable {s : Step} {call : Call} {name : String} {path : List String}

theorem run_cons {σ : Type} (perform : σ → Context → Answer × Context) (s : σ) (rest : List σ)
    (c : Context) :
    run perform (s :: rest) c =
      ((perform s c).1 :: (run perform rest (perform s c).2).1,
        (run perform rest (perform s c).2).2) := rfl

theorem stepsTo_cons_self (call : Call) (calls : List Call) :
    stepsTo call.path (call :: calls) = call.step :: stepsTo call.path calls := by
  simp [stepsTo]

theorem stepsTo_cons_of_ne (h : call.path ≠ path) (calls : List Call) :
    stepsTo path (call :: calls) = stepsTo path calls := by
  simp [stepsTo, h]

theorem answersTo_cons_self (call : Call) (calls : List Call) (a : Answer) (answers : List Answer) :
    answersTo call.path (call :: calls) (a :: answers) =
      a :: answersTo call.path calls answers := by
  simp [answersTo]

theorem answersTo_cons_of_ne (h : call.path ≠ path) (calls : List Call) (a : Answer)
    (answers : List Answer) :
    answersTo path (call :: calls) (a :: answers) = answersTo path calls answers := by
  simp [answersTo, h]

/-! ## Steps -/

/-- No step touches the contexts inside. -/
theorem Step.children_perform (s : Step) (c : Context) :
    (s.perform c).2.children = c.children := by
  cases s <;> cases c <;> rfl

/-- No step depends on the contexts inside. -/
theorem Step.perform_alone (s : Step) (c : Context) :
    s.perform c.alone = ((s.perform c).1, (s.perform c).2.alone) := by
  cases s <;> cases c <;> rfl

/-- Only the increments of a counter move it. -/
theorem Step.counter_perform (s : Step) (c : Context) (name : String) :
    (s.perform c).2.counter name = c.counter name + (s.amount? name).getD 0 := by
  cases s with
  | increment name' amount =>
    cases c
    simp only [perform, Context.increment, counter, counters, Dict.find?_insert, amount?]
    by_cases hname : name' = name
    · subst hname
      simp
    · simp [hname]
  | _ =>
    cases c
    exact (Int64.add_zero _).symm

/-- An increment answers what its counter stands at afterwards. -/
theorem Step.answer_of_amount? {amount : Int64} (h : s.amount? name = some amount) (c : Context) :
    (s.perform c).1 = .total (c.counter name + amount) := by
  cases s with
  | increment name' amount' =>
    rw [amount?] at h
    split at h
    · next hname =>
      subst hname
      cases h
      cases c
      rfl
    · cases h
  | _ => cases h

/-! ## Calls -/

/-- A call is its step on what the context at its path has of its own. -/
theorem Call.perform_own (call : Call) (c : Context) :
    call.step.perform (c.own call.path) =
      ((call.perform c).1, (call.perform c).2.own call.path) := by
  rw [own, Step.perform_alone, perform, fst_stepAt, own, inside_stepAt_self]

/-- A call changes nothing of its own in any other context. -/
theorem Call.own_perform_of_ne (h : call.path ≠ path) (c : Context) :
    (call.perform c).2.own path = c.own path :=
  own_stepAt_of_ne call.step.children_perform c (Ne.symm h)

theorem Call.isSome_at?_perform (call : Call) (c : Context) (path : List String) :
    ((call.perform c).2.at? path).isSome ↔ (c.at? path).isSome ∨ path <+: call.path :=
  isSome_at?_stepAt call.step.children_perform c call.path path

/-! ## Runs -/

/-- **The frame of a run.**  What a context has of its own, and what is answered to the steps
addressed to it, is what these steps alone make of it. -/
theorem own_run (calls : List Call) (c : Context) (path : List String) :
    run Step.perform (stepsTo path calls) (c.own path) =
      (answersTo path calls (run Call.perform calls c).1,
        (run Call.perform calls c).2.own path) := by
  induction calls generalizing c with
  | nil => rfl
  | cons call rest ih =>
    by_cases hpath : call.path = path
    · subst hpath
      rw [stepsTo_cons_self, run_cons, run_cons, answersTo_cons_self, call.perform_own, ih]
    · -- the call is left out at this path, where it leaves what the rest begins with
      rw [stepsTo_cons_of_ne hpath, run_cons, answersTo_cons_of_ne hpath,
        ← Call.own_perform_of_ne hpath c, ih]

/-- A run leaves every context there and adds those on the ways to the paths of its calls. -/
theorem isSome_at?_run (calls : List Call) (c : Context) (path : List String) :
    ((run Call.perform calls c).2.at? path).isSome ↔
      (c.at? path).isSome ∨ ∃ call ∈ calls, path <+: call.path := by
  induction calls generalizing c with
  | nil => simp [run]
  | cons call rest ih =>
    rw [run_cons, ih, call.isSome_at?_perform, List.exists_mem_cons_iff, or_assoc]

/-! ## Counters -/

theorem increments_cons_of_none (h : s.amount? name = none) (rest : List Step) :
    increments name (s :: rest) = increments name rest :=
  List.filterMap_cons_none h

theorem increments_cons_of_some {amount : Int64} (h : s.amount? name = some amount)
    (rest : List Step) : increments name (s :: rest) = amount :: increments name rest :=
  List.filterMap_cons_some h

theorem totals_cons_of_none (h : s.amount? name = none) (rest : List Step) (a : Answer)
    (answers : List Answer) :
    totals name (s :: rest) (a :: answers) = totals name rest answers := by
  simp [totals, h]

theorem totals_cons_of_some {amount total : Int64} (h : s.amount? name = some amount)
    (rest : List Step) (answers : List Answer) :
    totals name (s :: rest) (.total total :: answers) = total :: totals name rest answers := by
  simp [totals, h, Answer.total?]

/-- The totals of a counter are its running sums from where it stands. -/
theorem totals_run (steps : List Step) (c : Context) (name : String) :
    c.counter name :: totals name steps (run Step.perform steps c).1 =
      (increments name steps).scanl (· + ·) (c.counter name) := by
  induction steps generalizing c with
  | nil => rfl
  | cons s rest ih =>
    have hcounter := s.counter_perform c name
    rw [run_cons]
    cases hamount : s.amount? name with
    | none =>
      rw [hamount, Option.getD_none, Int64.add_zero] at hcounter
      rw [totals_cons_of_none hamount, increments_cons_of_none hamount, ← hcounter, ih]
    | some amount =>
      rw [hamount, Option.getD_some] at hcounter
      rw [s.answer_of_amount? hamount, totals_cons_of_some hamount,
        increments_cons_of_some hamount, List.scanl_cons, ← hcounter, ih]

/-- A counter stands at what it stood at and all that was added to it. -/
theorem counter_run (steps : List Step) (c : Context) (name : String) :
    (run Step.perform steps c).2.counter name =
      (increments name steps).foldl (· + ·) (c.counter name) := by
  induction steps generalizing c with
  | nil => rfl
  | cons s rest ih =>
    rw [run_cons, ih, s.counter_perform]
    cases hamount : s.amount? name with
    | none => rw [increments_cons_of_none hamount, Option.getD_none, Int64.add_zero]
    | some amount => rw [increments_cons_of_some hamount, Option.getD_some, List.foldl_cons]

/-! ## Counters within their range -/

section Range

variable {start amount : Int64} {amounts rest : List Int64}

/-- What a counter stands at before and after each addition, as integers. -/
def runningTotals (start : Int64) (amounts : List Int64) : List Int :=
  (amounts.map Int64.toInt).scanl (· + ·) start.toInt

/-- No addition to a counter overflows. -/
def Fits (start : Int64) (amounts : List Int64) : Prop :=
  ∀ total ∈ runningTotals start amounts, -2 ^ 63 ≤ total ∧ total < 2 ^ 63

instance (start : Int64) (amounts : List Int64) : Decidable (Fits start amounts) :=
  inferInstanceAs (Decidable (∀ total ∈ runningTotals start amounts, _))

theorem runningTotals_cons (start amount : Int64) (rest : List Int64) :
    runningTotals start (amount :: rest) =
      start.toInt :: (rest.map Int64.toInt).scanl (· + ·) (start.toInt + amount.toInt) := by
  rw [runningTotals, List.map_cons, List.scanl_cons]

theorem Fits.toInt_add (h : Fits start (amount :: rest)) :
    (start + amount).toInt = start.toInt + amount.toInt := by
  have hmem : start.toInt + amount.toInt ∈ runningTotals start (amount :: rest) := by
    rw [runningTotals_cons]
    cases rest <;> simp
  obtain ⟨hle, hlt⟩ := h _ hmem
  -- the sum of words is the balanced remainder of this number
  rw [Int64.toInt_add]
  exact Int.bmod_eq_of_le (by omega) (by omega)

theorem Fits.tail (h : Fits start (amount :: rest)) : Fits (start + amount) rest := by
  intro total htotal
  refine h total ?_
  rw [runningTotals_cons, ← h.toInt_add]
  exact List.mem_cons_of_mem _ htotal

/-- Within the range the running sums of words are those of the integers. -/
theorem Fits.map_toInt_scanl (h : Fits start amounts) :
    (amounts.scanl (· + ·) start).map Int64.toInt = runningTotals start amounts := by
  induction amounts generalizing start with
  | nil => rfl
  | cons amount rest ih =>
    rw [List.scanl_cons, List.map_cons, ih h.tail, runningTotals_cons, runningTotals, h.toInt_add]

theorem Fits.toInt_foldl (h : Fits start amounts) :
    (amounts.foldl (· + ·) start).toInt = start.toInt + (amounts.map Int64.toInt).sum := by
  induction amounts generalizing start with
  | nil => simp
  | cons amount rest ih =>
    rw [List.foldl_cons, ih h.tail, h.toInt_add, List.map_cons, List.sum_cons, Int.add_assoc]

/-- Running totals that follow each other differ by what was added between them. -/
theorem eq_add_of_runningTotals {answered : List Int64}
    (h : start.toInt :: answered.map Int64.toInt = runningTotals start amounts) {i : Nat}
    {first next : Int64} (hfirst : answered[i]? = some first)
    (hnext : answered[i + 1]? = some next) (hamount : amounts[i + 1]? = some amount) :
    next.toInt = first.toInt + amount.toInt := by
  have hstep : (runningTotals start amounts)[i + 2]? = some (first.toInt + amount.toInt) := by
    rw [runningTotals, List.getElem?_succ_scanl, ← runningTotals, ← h, List.getElem?_cons_succ,
      List.getElem?_map, hfirst, List.getElem?_map, hamount]
    rfl
  rw [← h, List.getElem?_cons_succ, List.getElem?_map, hnext] at hstep
  exact Option.some.inj hstep

end Range

/-! ## Any calls -/

/-- **Contexts at different paths do not interfere.**  After any calls, each context has of its own
what the steps addressed to it make of what it had, an absent one counting as empty, and these steps
are answered as if they had been alone.  A counter whose additions do not overflow ends at where it
began and their sum; the answers to them are its running totals, so that an increment by one answers
the number after the answer before it.  The contexts that are there are those that were there and
those on the ways to the paths of the calls. -/
theorem run_isolates (calls : List Call) (c : Context) :
    (∀ path,
      (run Call.perform calls c).2.own path =
          (run Step.perform (stepsTo path calls) (c.own path)).2 ∧
        answersTo path calls (run Call.perform calls c).1 =
          (run Step.perform (stepsTo path calls) (c.own path)).1) ∧
    (∀ path name, Fits ((c.own path).counter name) (addedTo path name calls) →
      (((run Call.perform calls c).2.own path).counter name).toInt =
          ((c.own path).counter name).toInt + ((addedTo path name calls).map Int64.toInt).sum ∧
        ((c.own path).counter name).toInt ::
            (totalsOf path name calls (run Call.perform calls c).1).map Int64.toInt =
          runningTotals ((c.own path).counter name) (addedTo path name calls) ∧
        ∀ (i : Nat) (first next : Int64),
          (totalsOf path name calls (run Call.perform calls c).1)[i]? = some first →
          (totalsOf path name calls (run Call.perform calls c).1)[i + 1]? = some next →
          (addedTo path name calls)[i + 1]? = some 1 → next.toInt = first.toInt + 1) ∧
    ∀ path, ((run Call.perform calls c).2.at? path).isSome ↔
      (c.at? path).isSome ∨ ∃ call ∈ calls, path <+: call.path := by
  refine ⟨fun path => ?_, fun path name hfits => ?_, isSome_at?_run calls c⟩
  · rw [own_run]
    exact ⟨rfl, rfl⟩
  · have hrun := own_run calls c path
    have hcounter := counter_run (stepsTo path calls) (c.own path) name
    have htotals := totals_run (stepsTo path calls) (c.own path) name
    rw [hrun, ← addedTo] at hcounter htotals
    -- the answers at this path are those of its steps alone, of which the totals are known
    have hrunning : ((c.own path).counter name).toInt ::
        (totalsOf path name calls (run Call.perform calls c).1).map Int64.toInt =
          runningTotals ((c.own path).counter name) (addedTo path name calls) := by
      rw [← hfits.map_toInt_scanl, ← htotals, List.map_cons, totalsOf]
    refine ⟨?_, hrunning, fun i first next hfirst hnext hone => ?_⟩
    · rw [hcounter, hfits.toInt_foldl]
    · exact eq_add_of_runningTotals hrunning hfirst hnext hone

/-- A context with another one inside, in which a counter has begun. -/
def desk : Context := (empty.setScope "create").setSub "audit" (empty.increment "n" 5).2

/-- Steps addressed to a context, to the one above it and to one below it that is not there yet, all
of them with the same name. -/
def interleaved : List Call :=
  [⟨["audit"], .increment "n" 1⟩, ⟨[], .increment "n" 40⟩, ⟨["audit", "log"], .set "n" .null⟩,
    ⟨["audit"], .project "n" .null⟩, ⟨["audit"], .increment "n" 1⟩,
    ⟨["audit", "log"], .setScope "update"⟩, ⟨["audit"], .takeProjection⟩]

theorem run_isolates_interleaved :
    Fits ((desk.own ["audit"]).counter "n") (addedTo ["audit"] "n" interleaved) ∧
      (((run Call.perform interleaved desk).2.own ["audit"]).counter "n").toInt = 7 ∧
      (totalsOf ["audit"] "n" interleaved (run Call.perform interleaved desk).1).map
        Int64.toInt = [6, 7] ∧
      ((run Call.perform interleaved desk).2.own ["audit", "log"]).scope = "update" ∧
      ((run Call.perform interleaved desk).2.at? ["audit", "log"]).isSome ∧
      ¬((run Call.perform interleaved desk).2.at? ["log"]).isSome := by
  obtain ⟨hown, hcounters, hthere⟩ := run_isolates interleaved desk
  have hfits : Fits ((desk.own ["audit"]).counter "n") (addedTo ["audit"] "n" interleaved) := by
    decide
  obtain ⟨hcounter, htotals, -⟩ := hcounters ["audit"] "n" hfits
  refine ⟨hfits, hcounter.trans (by decide), ?_, ?_, ?_, ?_⟩
  · have hrunning : runningTotals ((desk.own ["audit"]).counter "n")
        (addedTo ["audit"] "n" interleaved) = [5, 6, 7] := by decide
    exact (List.cons.inj (htotals.trans hrunning)).2
  · rw [(hown ["audit", "log"]).1]
    rfl
  · exact (hthere ["audit", "log"]).2 (.inr ⟨⟨["audit", "log"], .setScope "update"⟩,
      by simp [interleaved], List.prefix_refl _⟩)
  · rw [hthere]
    decide

end FieldRules.Context
