import FieldRules.Directive.Aliases
import FieldRules.Proofs.Dict

/-!
# The tables that registration builds

A table of aliases is built from the empty one by registrations, each of which either succeeds or is
refused.  The checks of a registration keep the wildcard out of the table and keep a name from
standing for itself, but they look at one alias only: a scope that has aliases may itself be made an
alias of another scope.

## Main definitions

* `Aliases.Reachable` — the tables that successful registrations build.
* `Aliases.WellFormed` — what the checks of a registration guarantee.

## Main statements

* `Aliases.WellFormed.insert` — a successful registration keeps the guarantee.
* `Aliases.Reachable.wellFormed` — the guarantee holds of every table that can be built.
-/

namespace FieldRules.Aliases

variable {a b : Aliases} {name scope : String}

/-- The tables that successful registrations build from the empty one. -/
inductive Reachable : Aliases → Prop
  | empty : Reachable .empty
  | insert {a b : Aliases} {name scope : String} :
      Reachable a → a.insert name scope = .ok b → Reachable b

/-- What the checks of a registration guarantee of the table. -/
structure WellFormed (a : Aliases) : Prop where
  sorted : Dict.Sorted a.targets
  name_ne : ∀ {name scope}, a.targets.find? name = some scope → name ≠ wildcard
  scope_ne : ∀ {name scope}, a.targets.find? name = some scope → scope ≠ wildcard
  irreflexive : ∀ {name scope}, a.targets.find? name = some scope → name ≠ scope

/-- **What a successful registration does**: the name did not stand for anything else before, and
only the name is changed. -/
theorem insert_eq_ok (h : a.insert name scope = .ok b) :
    name ≠ wildcard ∧ scope ≠ wildcard ∧ name ≠ scope ∧
      (b = a ∨ b = ⟨a.targets.insert name scope⟩) := by
  unfold Aliases.insert at h
  split at h
  · cases h
  · next hwild =>
    obtain ⟨hname, hscope⟩ := not_or.1 hwild
    split at h
    · cases h
    · next hne =>
      refine ⟨hname, hscope, hne, ?_⟩
      split at h
      · split at h
        · cases h
          exact .inl rfl
        · cases h
      · cases h
        exact .inr rfl

theorem wellFormed_empty : WellFormed .empty where
  sorted := Dict.sorted_nil
  name_ne h := by cases h
  scope_ne h := by cases h
  irreflexive h := by cases h

/-- A successful registration keeps the guarantee. -/
theorem WellFormed.insert (ha : a.WellFormed) (h : a.insert name scope = .ok b) :
    b.WellFormed := by
  obtain ⟨hname, hscope, hne, rfl | rfl⟩ := insert_eq_ok h
  · exact ha
  · have hlookup : ∀ {n s}, (a.targets.insert name scope).find? n = some s →
        (n = name ∧ s = scope) ∨ a.targets.find? n = some s := by
      intro n s h
      rw [Dict.find?_insert] at h
      split at h
      · next heq => exact .inl ⟨heq.symm, (Option.some.inj h).symm⟩
      · exact .inr h
    refine ⟨ha.sorted.insert name scope, fun h => ?_, fun h => ?_, fun h => ?_⟩ <;>
      rcases hlookup h with ⟨rfl, rfl⟩ | h
    · exact hname
    · exact ha.name_ne h
    · exact hscope
    · exact ha.scope_ne h
    · exact hne
    · exact ha.irreflexive h

/-- The guarantee holds of every table that can be built. -/
theorem Reachable.wellFormed (ha : a.Reachable) : a.WellFormed := by
  induction ha with
  | empty => exact wellFormed_empty
  | insert _ h ih => exact ih.insert h

/-! ## Resolving names -/

theorem resolve_of_find? (h : a.targets.find? name = some scope) : a.resolve name = scope := by
  rw [resolve, h, Option.getD_some]

theorem resolve_of_find?_none (h : a.targets.find? name = none) : a.resolve name = name := by
  rw [resolve, h, Option.getD_none]

/-- A name is resolved to an alias only by standing for it. -/
theorem find?_of_resolve_eq {target : String} (h : a.targets.find? scope = some target)
    (hresolve : a.resolve name = scope) : a.targets.find? name = some scope := by
  cases hname : a.targets.find? name with
  | none =>
    rw [resolve_of_find?_none hname] at hresolve
    rw [hresolve, h] at hname
    cases hname
  | some other => rw [← hresolve, resolve_of_find? hname]

namespace WellFormed

variable (ha : a.WellFormed)
include ha

theorem find?_wildcard : a.targets.find? wildcard = none := by
  cases h : a.targets.find? wildcard with
  | none => rfl
  | some scope => exact absurd rfl (ha.name_ne h)

/-- Only the wildcard stands for the wildcard. -/
theorem resolve_eq_wildcard_iff : a.resolve name = wildcard ↔ name = wildcard := by
  constructor
  · intro h
    cases hfind : a.targets.find? name with
    | none => rw [← resolve_of_find?_none hfind, h]
    | some scope => exact absurd (resolve_of_find? hfind ▸ h) (ha.scope_ne hfind)
  · rintro rfl
    exact resolve_of_find?_none ha.find?_wildcard

end WellFormed

/-! ## Two small tables -/

/-- The table in which one name stands for a scope. -/
theorem reachable_single : Reachable ⟨[("a", "b")]⟩ :=
  .insert .empty (show Aliases.empty.insert "a" "b" = .ok _ from rfl)

/-- The table in which the scope of an alias is itself an alias. -/
theorem reachable_chain : Reachable ⟨[("a", "b"), ("b", "c")]⟩ :=
  .insert reachable_single (show Aliases.insert ⟨[("a", "b")]⟩ "b" "c" = .ok _ from rfl)

end FieldRules.Aliases
