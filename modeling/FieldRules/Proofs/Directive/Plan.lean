import FieldRules.Applier
import FieldRules.Proofs.Directive.Aliases

/-!
# What a plan does in one scope

A plan decides by the active scope.  Once that scope is known there is nothing left to decide, and
what is left is a plan without scopes.  For the plan of some scopes it is found by three lookups,
one after the other: what is said for the scope itself, what is said for the scope that it stands
for, and what is said for every scope.

## Main definitions

* `Plan.inScope` — what a plan comes to in one scope.
* `Plan.governing` — what governs a scope.

## Main statements

* `Plan.run_inScope` — running a plan is running what it comes to in the active scope.
* `Plan.isNothing_ofScopes_iff`, `Plan.inScope_ofScopes` — what the plan of some scopes comes to.
* `Plan.run_ofScopes` — running the plan of some scopes is doing what governs the active scope.
-/

namespace FieldRules

theorem Applier.followed_scope {first second : Applier} {goesOn : Field → Record → Bool}
    (hfirst : ∀ field r ctx, (first field r ctx).context.scope = ctx.scope)
    (hsecond : ∀ field r ctx, (second field r ctx).context.scope = ctx.scope)
    (field : Field) (r : Record) (ctx : Context) :
    (first.followed goesOn second field r ctx).context.scope = ctx.scope := by
  simp only [followed]
  split
  · exact (hsecond _ _ _).trans (hfirst _ _ _)
  · exact hfirst _ _ _

namespace Plan

variable {α : Type} {a : Aliases} {scopes : Dict α} {scope : String}

/-- What a plan comes to in one scope: no other scope is left in it. -/
def inScope (scope : String) : Plan α → Plan α
  | .nothing => .nothing
  | .scoped byScope fallback => .scoped [] (choose byScope fallback scope)
  | .compose op left right => .compose op (inScope scope left) (inScope scope right)

theorem run_of_applier? {f : α → Applier} {p : Plan α} {applier : Applier}
    (h : p.applier? f = some applier) : p.run f = applier := by
  rw [applier?] at h
  split at h
  · cases h
  · exact Option.some.inj h

section Running

variable {f : α → Applier} (hf : ∀ a field r ctx, (f a field r ctx).context.scope = ctx.scope)
include hf

/-- Where no meaning changes the active scope, no plan does. -/
theorem run_scope (p : Plan α) (field : Field) (r : Record) (ctx : Context) :
    (p.run f field r ctx).context.scope = ctx.scope := by
  induction p generalizing field r ctx with
  | nothing => rfl
  | «scoped» byScope fallback =>
    simp only [run]
    split
    · exact hf _ _ _ _
    · rfl
  | compose op left right ihleft ihright => exact Applier.followed_scope ihleft ihright field r ctx

/-- Running a plan is running what it comes to in the active scope. -/
theorem run_inScope (p : Plan α) (field : Field) (r : Record) (ctx : Context) :
    (p.inScope ctx.scope).run f field r ctx = p.run f field r ctx := by
  induction p generalizing field r ctx with
  | nothing => rfl
  | «scoped» byScope fallback => rfl
  | compose op left right ihleft ihright =>
    -- the right side starts from the context that the left side left, in the same scope
    have hscope := run_scope hf left field r ctx
    have hright := ihright field (left.run f field r ctx).record (left.run f field r ctx).context
    rw [hscope] at hright
    simp only [inScope, run, Applier.followed, ihleft, hright]

end Running

/-! ## Plans of scopes -/

/-- What is said for one scope by name. -/
def own (scopes : Dict α) (scope : String) : Option α :=
  if wildcard = scope then none else scopes.find? scope

/-- What governs a scope: what is said for it, else what is said for the scope that it stands for,
else what is said for every scope. -/
def governing (a : Aliases) (scopes : Dict α) (scope : String) : Option α :=
  ((own scopes scope).or ((a.targets.find? scope).bind (own scopes))).or (scopes.find? wildcard)

theorem find?_erase_wildcard (scopes : Dict α) : (scopes.erase wildcard).find? = own scopes :=
  funext (Dict.find?_erase scopes wildcard)

/-- Each alias gets what is said for its scope, unless something is said for the alias itself. -/
theorem find?_addAliases (ha : Dict.Sorted a.targets) (byScope : Dict α) (scope : String) :
    (addAliases a byScope).find? scope =
      (byScope.find? scope).or ((a.targets.find? scope).bind byScope.find?) := by
  -- what one entry of the table adds
  let add (d : Dict α) (e : String × String) : Dict α :=
    (byScope.find? e.2).elim d fun said => if d.contains e.1 then d else d.insert e.1 said
  have hadd : addAliases a byScope = a.targets.foldl add byScope := by
    rw [addAliases]
    refine congrArg (fun step => a.targets.foldl step byScope) ?_
    funext d e
    simp only [add]
    cases byScope.find? e.2 <;> rfl
  have hfold : ∀ entries : Dict String, Dict.Sorted entries → ∀ d : Dict α,
      Dict.find? (entries.foldl add d) scope =
        (d.find? scope).or ((Dict.find? entries scope).bind byScope.find?) := by
    intro entries hsorted
    induction entries with
    | nil => simp [Dict.find?]
    | cons e rest ih =>
      intro d
      obtain ⟨name, target⟩ := e
      obtain ⟨hhead, hrest⟩ := List.pairwise_cons.1 hsorted
      rw [List.foldl_cons, ih hrest, Dict.find?]
      by_cases hname : name = scope
      · subst hname
        -- the name has no other entry
        have hlater : Dict.find? rest name = none := by
          cases h : Dict.find? rest name with
          | none => rfl
          | some other =>
            exact absurd (hhead _ (Dict.mem_of_find?_eq_some h)) (String.lt_irrefl name)
        rw [hlater, if_pos rfl]
        cases hsaid : byScope.find? target with
        | none => simp [add, hsaid]
        | some said =>
          cases hd : d.find? name <;> simp [add, Dict.contains, Dict.find?_insert, hd, hsaid]
      · rw [if_neg hname]
        cases hsaid : byScope.find? target with
        | none => simp [add, hsaid]
        | some said =>
          by_cases hd : d.contains name = true <;> simp [add, hsaid, hd, Dict.find?_insert, hname]
  rw [hadd]
  exact hfold a.targets ha byScope

/-- There is nothing to do exactly when nothing is said for any scope. -/
theorem isNothing_ofScopes_iff :
    (ofScopes a scopes).isNothing = true ↔ ∀ key, scopes.find? key = none := by
  have hown : (scopes.erase wildcard).isEmpty = true ↔ ∀ key, own scopes key = none := by
    rw [← find?_erase_wildcard]
    constructor
    · intro h key
      rw [List.isEmpty_iff.1 h]
      rfl
    · intro h
      cases hd : scopes.erase wildcard with
      | nil => rfl
      | cons e rest =>
        have hfirst := h e.1
        rw [hd, Dict.find?, if_pos rfl] at hfirst
        cases hfirst
  have hsplit : (∀ key, scopes.find? key = none) ↔
      (∀ key, own scopes key = none) ∧ scopes.find? wildcard = none := by
    constructor
    · intro h
      exact ⟨fun key => by simp [own, h], h wildcard⟩
    · rintro ⟨h, hwild⟩ key
      by_cases hkey : wildcard = key
      · rw [← hkey, hwild]
      · have hkey' := h key
        rwa [own, if_neg hkey] at hkey'
  rw [hsplit, ← hown, ofScopes]
  cases hempty : (scopes.erase wildcard).isEmpty <;> cases scopes.find? wildcard <;>
    simp [isNothing]

/-- What the plan of some scopes comes to in one of them. -/
theorem inScope_ofScopes (ha : Dict.Sorted a.targets) (scopes : Dict α) (scope : String) :
    (ofScopes a scopes).inScope scope =
      if (ofScopes a scopes).isNothing then .nothing
      else .scoped [] (governing a scopes scope) := by
  by_cases hempty : (scopes.erase wildcard).isEmpty = true
  · have hown : own scopes = fun _ => none := by
      rw [← find?_erase_wildcard, List.isEmpty_iff.1 hempty]
      rfl
    cases hfallback : scopes.find? wildcard with
    | none => simp [ofScopes, hempty, hfallback, inScope, isNothing]
    | some said =>
      simp [ofScopes, hempty, hfallback, inScope, isNothing, choose, governing, hown, Dict.find?]
  · have hchoose : ∀ (byScope : Dict α) (fallback : Option α),
        choose byScope fallback scope = (byScope.find? scope).or fallback := by
      intro byScope fallback
      rw [choose]
      cases byScope.find? scope <;> rfl
    rw [ofScopes]
    simp only [hempty, Bool.false_eq_true, if_false, inScope, isNothing, hchoose,
      find?_addAliases ha, find?_erase_wildcard, governing]

/-- Where there is nothing to do, nothing governs any scope. -/
theorem governing_of_isNothing (h : (ofScopes a scopes).isNothing = true) (scope : String) :
    governing a scopes scope = none := by
  have hnone := isNothing_ofScopes_iff.1 h
  have hown : own scopes = fun _ => none := by
    funext key
    simp [own, hnone]
  simp [governing, hown, hnone]

/-- Running the plan of some scopes is doing what governs the active scope. -/
theorem run_ofScopes {f : α → Applier} (ha : Dict.Sorted a.targets) (field : Field) (r : Record)
    (ctx : Context) :
    (ofScopes a scopes).run f field r ctx =
      (governing a scopes ctx.scope).elim (Applier.skip field r ctx) fun said =>
        f said field r ctx := by
  have hscope := inScope_ofScopes ha scopes ctx.scope
  cases hplan : ofScopes a scopes with
  | nothing =>
    rw [governing_of_isNothing (by rw [hplan]; rfl)]
    rfl
  | «scoped» byScope fallback =>
    have hchoose : choose byScope fallback ctx.scope = governing a scopes ctx.scope := by
      simpa [hplan, inScope, isNothing] using hscope
    simp only [run, hchoose]
    cases governing a scopes ctx.scope <;> rfl
  | compose op left right => simp [hplan, inScope, isNothing] at hscope

end Plan

end FieldRules
