import FieldRules.Proofs.Directive.Plan

/-!
# The order of enumeration

The aliases of the scopes may be added scope by scope, the scopes in any order and the aliases of
each scope in any order.  An alias belongs to one scope only and never displaces what a scope has of
its own, and so every order leads to the same plan.

## Main definitions

* `Dict.insertNew` — sets a key that has no value yet.
* `Plan.addAliasesAlong`, `Plan.ofScopesAlong` — adding the aliases along given orders.

## Main statements

* `Plan.ofScopesAlong_eq` — every order leads to the same plan.
-/

namespace FieldRules

variable {α : Type}

namespace Dict

variable {d : Dict α} {key : String} {value : α}

/-- Sets a key that has no value yet. -/
def insertNew (d : Dict α) (key : String) (value : α) : Dict α :=
  if d.contains key then d else d.insert key value

theorem Sorted.insertNew (hd : Sorted d) (key : String) (value : α) :
    Sorted (Dict.insertNew d key value) := by
  rw [Dict.insertNew]
  split
  · exact hd
  · exact hd.insert key value

theorem find?_insertNew (d : Dict α) (key : String) (value : α) (key' : String) :
    (d.insertNew key value).find? key' =
      (d.find? key').or (if key = key' then some value else none) := by
  by_cases hkey : key = key'
  · subst hkey
    cases h : d.find? key <;> simp [insertNew, contains, h, find?_insert]
  · by_cases hcontains : d.contains key = true <;> simp [insertNew, hcontains, hkey, find?_insert]

theorem sorted_foldl_insertNew (names : List String) (hd : Sorted d) :
    Sorted (names.foldl (fun d name => d.insertNew name value) d) := by
  induction names generalizing d with
  | nil => exact hd
  | cons name rest ih => exact ih (hd.insertNew name value)

/-- Setting several keys to one value sets those that have no value yet. -/
theorem find?_foldl_insertNew (names : List String) (d : Dict α) (value : α) (key : String) :
    Dict.find? (names.foldl (fun d name => d.insertNew name value) d) key =
      (d.find? key).or (if key ∈ names then some value else none) := by
  induction names generalizing d with
  | nil => simp
  | cons name rest ih =>
    rw [List.foldl_cons, ih, find?_insertNew, Option.or_assoc]
    by_cases hname : name = key
    · simp [hname]
    · simp [hname, Ne.symm hname]

end Dict

/-- The aliases of a scope are the names that stand for it. -/
theorem Aliases.mem_aliasesOf_iff {a : Aliases} (ha : Dict.Sorted a.targets) {name scope : String} :
    name ∈ a.aliasesOf scope ↔ a.targets.find? name = some scope := by
  rw [Dict.find?_eq_some_iff ha]
  simp [aliasesOf]

namespace Plan

variable {a : Aliases} {scopes byScope : Dict α} {order : List String}
  {aliasesOf : String → List String}

/-- Adds the aliases of each scope, except those that have something of their own.  The scopes are
gone through in one order and the aliases of each scope in another. -/
def addAliasesAlong (order : List String) (aliasesOf : String → List String) (byScope : Dict α) :
    Dict α :=
  order.foldl (fun d scope => (d.find? scope).elim d fun said =>
    (aliasesOf scope).foldl (fun d name => d.insertNew name said) d) byScope

/-- The plan of what holds in each scope, where the aliases are added along given orders. -/
def ofScopesAlong (order : List String) (aliasesOf : String → List String) (scopes : Dict α) :
    Plan α :=
  let fallback := scopes.find? wildcard
  let byScope := scopes.erase wildcard
  if byScope.isEmpty then
    match fallback with
    | some said => .scoped [] (some said)
    | none => .nothing
  else .scoped (addAliasesAlong order aliasesOf byScope) fallback

theorem sorted_addAliasesAlong (hsorted : Dict.Sorted byScope) :
    Dict.Sorted (addAliasesAlong order aliasesOf byScope) := by
  rw [addAliasesAlong]
  induction order generalizing byScope with
  | nil => exact hsorted
  | cons scope rest ih =>
    rw [List.foldl_cons]
    refine ih ?_
    cases byScope.find? scope with
    | none => exact hsorted
    | some said => exact Dict.sorted_foldl_insertNew (aliasesOf scope) hsorted

theorem sorted_addAliases (hsorted : Dict.Sorted byScope) :
    Dict.Sorted (addAliases a byScope) := by
  have hfold : ∀ (entries : Dict String) (d : Dict α), Dict.Sorted d →
      Dict.Sorted (entries.foldl (fun d e =>
        match byScope.find? e.2 with
        | some said => if d.contains e.1 then d else d.insert e.1 said
        | none => d) d) := by
    intro entries
    induction entries with
    | nil => exact fun d hd => hd
    | cons e rest ih =>
      intro d hd
      rw [List.foldl_cons]
      refine ih _ ?_
      cases byScope.find? e.2 with
      | none => exact hd
      | some said => exact hd.insertNew e.1 said
  exact hfold a.targets byScope hsorted

/-- Going through some of the scopes adds, for each of them, what it has to its aliases.  What the
scopes have of their own stays as it is meanwhile. -/
theorem find?_addAliasesAlong_of_own (ha : Dict.Sorted a.targets)
    (haliases : ∀ scope, (aliasesOf scope).Perm (a.aliasesOf scope)) {d : Dict α}
    (horder : ∀ scope ∈ order, byScope.find? scope ≠ none)
    (hown : ∀ scope, byScope.find? scope ≠ none → d.find? scope = byScope.find? scope)
    (key : String) :
    (addAliasesAlong order aliasesOf d).find? key =
      (d.find? key).or ((a.targets.find? key).bind fun target =>
        if target ∈ order then byScope.find? target else none) := by
  rw [addAliasesAlong]
  induction order generalizing d with
  | nil => cases a.targets.find? key <;> simp
  | cons scope rest ih =>
    have hscope := horder scope List.mem_cons_self
    obtain ⟨said, hsaid⟩ := Option.ne_none_iff_exists'.1 hscope
    -- what one scope adds
    have hstep : ∀ key, Dict.find?
        ((aliasesOf scope).foldl (fun d name => d.insertNew name said) d) key =
        (d.find? key).or (if a.targets.find? key = some scope then some said else none) := by
      intro key
      rw [Dict.find?_foldl_insertNew]
      simp only [(haliases scope).mem_iff, Aliases.mem_aliasesOf_iff ha]
    rw [List.foldl_cons, hown scope hscope, hsaid, Option.elim_some,
      ih (fun s hs => horder s (List.mem_cons_of_mem scope hs)) ?_, hstep, Option.or_assoc]
    · congr 1
      cases htarget : a.targets.find? key with
      | none => simp
      | some target =>
        by_cases heq : target = scope
        · simp [heq, hsaid]
        · simp [heq]
    · intro s hs
      rw [hstep, hown s hs]
      obtain ⟨own, hfound⟩ := Option.ne_none_iff_exists'.1 hs
      rw [hfound, Option.some_or]

/-- **Every order leads to the same plan.** -/
theorem ofScopesAlong_eq (ha : Dict.Sorted a.targets) (hsorted : Dict.Sorted scopes)
    (horder : order.Perm (scopes.erase wildcard).keys)
    (haliases : ∀ scope, (aliasesOf scope).Perm (a.aliasesOf scope)) :
    ofScopesAlong order aliasesOf scopes = ofScopes a scopes := by
  have hbyScope : Dict.Sorted (scopes.erase wildcard) := hsorted.filter _
  have hmem : ∀ scope, scope ∈ order ↔ (scopes.erase wildcard).find? scope ≠ none := fun scope => by
    rw [horder.mem_iff, Dict.mem_keys_iff]
  have hadd : addAliasesAlong order aliasesOf (scopes.erase wildcard) =
      addAliases a (scopes.erase wildcard) := by
    refine (sorted_addAliasesAlong hbyScope).ext (sorted_addAliases hbyScope) fun key => ?_
    rw [find?_addAliasesAlong_of_own ha haliases (fun scope => (hmem scope).1) (fun _ _ => rfl),
      find?_addAliases ha]
    congr 1
    cases a.targets.find? key with
    | none => rfl
    | some target =>
      simp only [Option.bind_some, hmem]
      cases htarget : (scopes.erase wildcard).find? target <;> simp
  cases hfallback : scopes.find? wildcard <;> simp [ofScopesAlong, ofScopes, hadd, hfallback]

end Plan

end FieldRules
