import FieldRules.Context

/-!
# Contexts by their paths

A context holds contexts under names, so what is inside it is found by a path of names.  A step at a
path creates the contexts on the way to it, and this is all that it does outside the one it is
addressed to.

## Main definitions

* `Context.at?` — the context at a path, if there is one.
* `Context.inside` — the context that a step at a path finds.
* `Context.own` — what the context at a path has, apart from the contexts inside it.

## Main statements

* `Context.fst_stepAt`, `Context.at?_stepAt_self` — a step at a path is the step on the context
  there.
* `Context.own_stepAt_of_ne` — no other context has anything changed of its own.
* `Context.isSome_at?_stepAt` — the contexts that are there after a step.
-/

namespace FieldRules.Context

variable {α : Type} {a b c : Context} {name : String} {path path' : List String}

/-! ## The context at a path -/

/-- The context at a path, if there is one. -/
def at? : List String → Context → Option Context
  | [], c => some c
  | name :: path, c => (c.sub? name).bind (at? path)

/-- The context at a path; where there is none, an empty one. -/
def inside (c : Context) (path : List String) : Context := (c.at? path).getD empty

/-- A context without the contexts inside it. -/
def alone : Context → Context
  | .mk s p a v n _ r => .mk s p a v n [] r

/-- What the context at a path has of its own: its scope, principal, kind of access, values,
counters and projection. -/
def own (c : Context) (path : List String) : Context := (c.inside path).alone

@[simp] theorem at?_nil (c : Context) : c.at? [] = some c := rfl

theorem at?_cons (c : Context) (name : String) (path : List String) :
    c.at? (name :: path) = (c.sub? name).bind fun inner => inner.at? path := rfl

@[simp] theorem at?_empty_cons (name : String) (path : List String) :
    empty.at? (name :: path) = none := rfl

@[simp] theorem inside_empty (path : List String) : empty.inside path = empty := by
  cases path <;> rfl

theorem inside_cons (c : Context) (name : String) (path : List String) :
    c.inside (name :: path) = (c.inside [name]).inside path := by
  simp only [inside, at?_cons]
  cases c.sub? name with
  | none => exact (inside_empty path).symm
  | some inner => rfl

/-- Below a context only the contexts inside it count. -/
theorem at?_cons_congr (h : a.children = b.children) (name : String) (path : List String) :
    a.at? (name :: path) = b.at? (name :: path) := by
  rw [at?_cons, at?_cons, sub?, sub?, h]

/-! ## Putting a context inside -/

@[simp] theorem alone_setSub (c : Context) (name : String) (inner : Context) :
    (c.setSub name inner).alone = c.alone := by
  cases c
  rfl

theorem sub?_setSub (c : Context) (name : String) (inner : Context) (name' : String) :
    (c.setSub name inner).sub? name' = if name = name' then some inner else c.sub? name' := by
  cases c
  exact Dict.find?_insert _ _ _ _

theorem at?_setSub_self (c : Context) (name : String) (inner : Context) (path : List String) :
    (c.setSub name inner).at? (name :: path) = inner.at? path := by
  rw [at?_cons, sub?_setSub, if_pos rfl, Option.bind_some]

theorem at?_setSub_of_ne (c : Context) (inner : Context) {name name' : String} (h : name ≠ name')
    (path : List String) : (c.setSub name inner).at? (name' :: path) = c.at? (name' :: path) := by
  rw [at?_cons, sub?_setSub, if_neg h, ← at?_cons]

/-! ## A step at a path -/

section Step

variable (step : Context → α × Context)

theorem stepAt_cons (c : Context) (name : String) (path : List String) :
    c.stepAt step (name :: path) = (((c.inside [name]).stepAt step path).1,
      c.setSub name ((c.inside [name]).stepAt step path).2) := by
  rw [stepAt, inside, at?_cons]
  cases c.sub? name <;> rfl

/-- The answer of a step is the one that the context at its path gives. -/
theorem fst_stepAt (c : Context) (path : List String) :
    (c.stepAt step path).1 = (step (c.inside path)).1 := by
  induction path generalizing c with
  | nil => rfl
  | cons name path ih => rw [stepAt_cons, ih, ← inside_cons]

/-- The step is done on the context at its path, which is there from then on. -/
theorem at?_stepAt_self (c : Context) (path : List String) :
    (c.stepAt step path).2.at? path = some (step (c.inside path)).2 := by
  induction path generalizing c with
  | nil => rfl
  | cons name path ih => rw [stepAt_cons, at?_setSub_self, ih, ← inside_cons]

theorem inside_stepAt_self (c : Context) (path : List String) :
    (c.stepAt step path).2.inside path = (step (c.inside path)).2 := by
  rw [inside, at?_stepAt_self, Option.getD_some]

variable {step} (hstep : ∀ c, (step c).2.children = c.children)
include hstep

/-- **The frame of a step.**  A step that keeps what is inside its context changes nothing of any
context but the one at its path, be it above, below or beside it. -/
theorem own_stepAt_of_ne (c : Context) (h : path' ≠ path) :
    (c.stepAt step path).2.own path' = c.own path' := by
  induction path generalizing c path' with
  | nil =>
    cases path' with
    | nil => exact absurd rfl h
    | cons name rest => rw [own, inside, stepAt, at?_cons_congr (hstep c), ← inside, ← own]
  | cons name path ih =>
    rw [stepAt_cons]
    cases path' with
    | nil => exact alone_setSub _ _ _
    | cons name' rest =>
      by_cases hname : name = name'
      · subst hname
        have hrest : rest ≠ path := fun e => h (e ▸ rfl)
        rw [own, inside, at?_setSub_self, ← inside, ← own, ih _ hrest, own, ← inside_cons, ← own]
      · rw [own, inside, at?_setSub_of_ne _ _ hname, ← inside, ← own]

/-- A step leaves every context there and adds those on the way to its own. -/
theorem isSome_at?_stepAt (c : Context) (path path' : List String) :
    ((c.stepAt step path).2.at? path').isSome ↔ (c.at? path').isSome ∨ path' <+: path := by
  induction path generalizing c path' with
  | nil =>
    cases path' with
    | nil => simp
    | cons name rest => rw [stepAt, at?_cons_congr (hstep c)]; simp
  | cons name path ih =>
    rw [stepAt_cons]
    cases path' with
    | nil => simp
    | cons name' rest =>
      rw [List.cons_prefix_cons]
      by_cases hname : name = name'
      · subst hname
        rw [at?_setSub_self, ih, inside, at?_cons, at?_cons]
        cases hsub : c.sub? name with
        | some inner => simp
        | none =>
          -- an absent context counts as an empty one, in which only the way to itself is there
          cases rest <;> simp
      · rw [at?_setSub_of_ne _ _ hname]
        simp [Ne.symm hname]

end Step

end FieldRules.Context
