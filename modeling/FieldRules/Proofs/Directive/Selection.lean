import FieldRules.Proofs.Directive.Plan
import FieldRules.Proofs.Directive.Writing

/-!
# What an alias selects

An alias is meant to select what its scope selects.  It does so where aliases do not build on each
other.  Two things can come between: something said for the alias by its own name, which is possible
when other names stand for the alias, and something said for a further scope that the scope stands
for, which the scope selects and the alias does not, because a name is resolved in one step.

## Main definitions

* `Aliases.Addressable` — the scopes that a segment can be for, once its name is resolved.
* `Aliases.SelectsAlike` — what an alias and its scope need in order to select the same.

## Main statements

* `Directive.inScope_eq_iff_selectsAlike` — an alias selects what its scope selects, in all
  directives, exactly under this condition.
* `Directive.inScope_ne_of_chain` — in a chain of two aliases the first one and its scope differ.
-/

namespace FieldRules

/-- Some name that can stand in front of a segment is resolved to the scope. -/
def Aliases.Addressable (a : Aliases) (scope : String) : Prop :=
  ∃ name, Directive.IsScopeName name ∧ a.resolve name = scope

/-- What an alias and its scope need in order to select the same. -/
structure Aliases.SelectsAlike (a : Aliases) (name scope : String) : Prop where
  /-- Nothing can be said for the alias itself, unless the two stand for each other and nothing can
  be said for the scope. -/
  own : a.Addressable name → a.targets.find? scope = some name ∧ ¬ a.Addressable scope
  /-- Nothing can be said for a further scope that the scope stands for. -/
  further : ∀ target, a.targets.find? scope = some target → target ≠ name → ¬ a.Addressable target

/-- Where aliases do not build on each other, an alias and its scope have what they need. -/
theorem Aliases.selectsAlike_of_unchained {a : Aliases} {name scope : String}
    (h : a.targets.find? name = some scope) (hname : ∀ n, a.targets.find? n ≠ some name)
    (hscope : a.targets.find? scope = none) : a.SelectsAlike name scope := by
  constructor
  · rintro ⟨n, -, hn⟩
    exact absurd (find?_of_resolve_eq h hn) (hname n)
  · intro target htarget
    rw [hscope] at htarget
    cases htarget

namespace Plan

variable {α : Type} {a : Aliases} {scopes : Dict α} {name scope : String}

/-- Where only addressable scopes have something said for them, an alias is governed by what governs
its scope. -/
theorem governing_eq_of_selectsAlike (h : a.targets.find? name = some scope)
    (halike : a.SelectsAlike name scope)
    (hscopes : ∀ key value, scopes.find? key = some value → a.Addressable key) :
    governing a scopes name = governing a scopes scope := by
  have hnone : ∀ {key}, ¬ a.Addressable key → own scopes key = none := by
    intro key hkey
    rw [own]
    split
    · rfl
    · cases hsaid : scopes.find? key with
      | none => rfl
      | some value => exact absurd (hscopes key value hsaid) hkey
  rw [governing, governing, h, Option.bind_some]
  congr 1
  by_cases hname : a.Addressable name
  · obtain ⟨hback, hscope⟩ := halike.own hname
    rw [hback, hnone hscope, Option.bind_some, Option.or_none, Option.none_or]
  · rw [hnone hname, Option.none_or]
    cases htarget : a.targets.find? scope with
    | none => rw [Option.bind_none, Option.or_none]
    | some target =>
      have htargetNone : own scopes target = none := by
        by_cases heq : target = name
        · rw [heq, hnone hname]
        · exact hnone (halike.further target htarget heq)
      rw [Option.bind_some, htargetNone, Option.or_none]

end Plan

namespace Directive

/-! ## The scopes of a directive -/

/-- Every segment is for a scope with a property. -/
def ScopesIn (P : String → Prop) : Directive → Prop
  | .segments ss => ∀ s ∈ ss, P s.scope
  | .compose left _ right => (∀ s ∈ left, P s.scope) ∧ ScopesIn P right
  | .oneSided _ _ => True

theorem scopesIn_read (text : String) : (read text).ScopesIn IsScopeName := by
  have hsegments : ∀ s : List Char, ∀ g ∈ readSegments s, IsScopeName g.scope := by
    intro s g hg
    obtain ⟨part, -, rfl⟩ := List.mem_map.1 hg
    exact isScopeName_readSegment part
  have hwithin : ∀ (fuel : Nat) (s : List Char), (readWithin fuel s).ScopesIn IsScopeName := by
    intro fuel
    induction fuel with
    | zero => exact hsegments
    | succ fuel ih =>
      intro s
      rw [readWithin]
      split
      · exact hsegments s
      · next left op right _ =>
        split
        · trivial
        · exact ⟨hsegments left, ih right⟩
  exact hwithin _ _

/-! ## Successful runs of a leaf function

A leaf function may keep a state from one call to the next, and it may fail. -/

section Leaf

variable {σ α β : Type} {a : Aliases} {leaf : String → String → ExceptT Error (StateM σ) (Option α)}
  {name scope : String}

theorem run_bind_eq_ok_iff {x : ExceptT Error (StateM σ) α} {f : α → ExceptT Error (StateM σ) β}
    {b : β} {s s'' : σ} :
    (x >>= f).run.run s = (.ok b, s'') ↔
      ∃ a s', x.run.run s = (.ok a, s') ∧ (f a).run.run s' = (.ok b, s'') := by
  rw [ExceptT.run_bind, StateT.run_bind]
  rcases x.run.run s with ⟨e | value, s'⟩
  · constructor
    · intro h
      cases h
    · rintro ⟨_, _, h, -⟩
      cases h
  · constructor
    · exact fun h => ⟨value, s', rfl, h⟩
    · rintro ⟨_, _, h, hf⟩
      cases h
      exact hf

/-- Only scopes that segments are for, once they are resolved, get a meaning. -/
theorem meanings_keys {P : String → Prop} {ss : List Segment} {scopes scopes' : Dict α} {s s' : σ}
    (hrun : (meanings a leaf scopes ss).run.run s = (.ok scopes', s'))
    (hss : ∀ g ∈ ss, P (a.resolve g.scope))
    (hscopes : ∀ key value, scopes.find? key = some value → P key) :
    ∀ key value, scopes'.find? key = some value → P key := by
  induction ss generalizing scopes s with
  | nil =>
    cases hrun
    exact hscopes
  | cons g rest ih =>
    obtain ⟨meaning?, s₁, -, hrest⟩ := run_bind_eq_ok_iff.1 hrun
    have hss' := fun g hg => hss g (List.mem_cons_of_mem _ hg)
    cases meaning? with
    | none =>
      refine ih hrest hss' fun key value hfind => ?_
      rw [Dict.find?_erase] at hfind
      split at hfind
      · cases hfind
      · exact hscopes key value hfind
    | some meaning =>
      refine ih hrest hss' fun key value hfind => ?_
      rw [Dict.find?_insert] at hfind
      split at hfind
      · next heq => exact heq ▸ hss g List.mem_cons_self
      · exact hscopes key value hfind

theorem inScope_eq_of_segmentsPlan (ha : a.Reachable) (h : a.targets.find? name = some scope)
    (halike : a.SelectsAlike name scope) {ss : List Segment} (hss : ∀ g ∈ ss, IsScopeName g.scope)
    {s s' : σ} {p : Plan α} (hrun : (segmentsPlan a leaf ss).run.run s = (.ok p, s')) :
    p.inScope name = p.inScope scope := by
  obtain ⟨scopes, s₁, hscopes, hplan⟩ := run_bind_eq_ok_iff.1 hrun
  cases hplan
  have haddressable := meanings_keys (P := a.Addressable) hscopes
    (fun g hg => ⟨g.scope, hss g hg, rfl⟩) (fun key value hfind => by cases hfind)
  rw [Plan.inScope_ofScopes ha.wellFormed.sorted, Plan.inScope_ofScopes ha.wellFormed.sorted,
    Plan.governing_eq_of_selectsAlike h halike haddressable]

theorem inScope_eq_of_plan (ha : a.Reachable) (h : a.targets.find? name = some scope)
    (halike : a.SelectsAlike name scope) {d : Directive} (hd : d.ScopesIn IsScopeName)
    {s s' : σ} {p : Plan α} (hrun : (d.plan a leaf).run.run s = (.ok p, s')) :
    p.inScope name = p.inScope scope := by
  induction d generalizing s s' p with
  | segments ss => exact inScope_eq_of_segmentsPlan ha h halike hd hrun
  | oneSided text op => cases hrun
  | compose left op right ih =>
    obtain ⟨pleft, s₁, hleft, hrest⟩ := run_bind_eq_ok_iff.1 hrun
    obtain ⟨pright, s₂, hright, hplan⟩ := run_bind_eq_ok_iff.1 hrest
    cases hplan
    have hleftEq := inScope_eq_of_segmentsPlan ha h halike hd.1 hleft
    have hrightEq := ih hd.2 hright
    rw [Plan.composed]
    split
    · rfl
    · simp only [Plan.inScope, hleftEq, hrightEq]

end Leaf

/-! ## Directives that tell an alias from its scope -/

/-- The leaf function that gives every configuration itself as its meaning. -/
def echo (_ config : String) : ExceptT Error (StateM Unit) (Option String) := pure (some config)

/-- What segments say for each scope, once their names are resolved. -/
def saidFor (a : Aliases) (segments : List (String × String)) : Dict String :=
  Dict.ofList (segments.map fun s => (a.resolve s.1, s.2))

theorem find?_saidFor_single (a : Aliases) (n config key : String) :
    (saidFor a [(n, config)]).find? key = if a.resolve n = key then some config else none := by
  simp [saidFor, Dict.ofList, Dict.find?_insert, Dict.find?]

theorem find?_saidFor_pair (a : Aliases) (n config m config' key : String) :
    (saidFor a [(n, config), (m, config')]).find? key =
      if a.resolve m = key then some config'
      else if a.resolve n = key then some config else none := by
  simp [saidFor, Dict.ofList, Dict.find?_insert, Dict.find?]

/-- The directive of some segments, each with its scope in front. -/
def written (segments : List (String × String)) : String :=
  String.ofList (writeSegments (segments.map fun s => (some s.1, s.2)))

theorem meanings_echo (a : Aliases) (scopes : Dict String) (segments : List (String × String)) :
    (meanings a echo scopes (segments.map fun s => ⟨s.1, s.2⟩)).run.run () =
      (.ok ((segments.map fun s => (a.resolve s.1, s.2)).foldl
        (fun d e => d.insert e.1 e.2) scopes), ()) := by
  induction segments generalizing scopes with
  | nil => rfl
  | cons s rest ih => exact ih _

theorem plan_written (a : Aliases) {segments : List (String × String)} (hne : segments ≠ [])
    (hnames : ∀ s ∈ segments, IsScopeName s.1) :
    ((read (written segments)).plan a echo).run.run () =
      (.ok (Plan.ofScopes a (saidFor a segments)), ()) := by
  have hscopes : ∀ s ∈ segments.map fun s => (some s.1, s.2), ∀ name ∈ s.1, IsScopeName name := by
    intro s hs name hname
    obtain ⟨t, ht, rfl⟩ := List.mem_map.1 hs
    cases hname
    exact hnames t ht
  have hread : read (written segments) = .segments (segments.map fun s => ⟨s.1, s.2⟩) := by
    rw [written, read_writeSegments (by simpa using hne) hscopes, List.map_map]
    rfl
  rw [hread]
  exact run_bind_eq_ok_iff.2 ⟨_, (), meanings_echo a [] segments, rfl⟩

section Distinguishing

variable {a : Aliases} {name scope : String}

/-- Where no directive tells an alias from its scope, what is said by segments governs both
alike. -/
theorem governing_eq_of_echo (ha : a.Reachable)
    (hall : ∀ (directive : String) (p : Plan String),
      ((read directive).plan a echo).run.run () = (.ok p, ()) → p.inScope name = p.inScope scope)
    {segments : List (String × String)} (hne : segments ≠ [])
    (hnames : ∀ s ∈ segments, IsScopeName s.1) :
    Plan.governing a (saidFor a segments) name = Plan.governing a (saidFor a segments) scope := by
  have hsame := hall _ _ (plan_written a hne hnames)
  have hsome : (Plan.ofScopes a (saidFor a segments)).isNothing = false := by
    rw [← Bool.not_eq_true, Plan.isNothing_ofScopes_iff]
    intro hnone
    obtain ⟨s, hs⟩ := List.exists_mem_of_ne_nil segments hne
    have hfind := hnone (a.resolve s.1)
    rw [saidFor, Dict.find?_ofList, Option.map_eq_none_iff, List.find?_eq_none] at hfind
    exact hfind (a.resolve s.1, s.2) (List.mem_reverse.2 (List.mem_map.2 ⟨s, hs, rfl⟩)) (by simp)
  rw [Plan.inScope_ofScopes ha.wellFormed.sorted, Plan.inScope_ofScopes ha.wellFormed.sorted,
    hsome] at hsame
  simpa using hsame

/-- An alias and its scope that no directive tells apart have what they need to select the same. -/
theorem selectsAlike_of_echo (ha : a.Reachable) (h : a.targets.find? name = some scope)
    (hall : ∀ (directive : String) (p : Plan String),
      ((read directive).plan a echo).run.run () = (.ok p, ()) → p.inScope name = p.inScope scope) :
    a.SelectsAlike name scope := by
  have hvalid := ha.wellFormed
  have hname := hvalid.name_ne h
  have hscope := hvalid.scope_ne h
  have hne := hvalid.irreflexive h
  constructor
  · rintro ⟨n, hn, hnname⟩
    have hback : a.targets.find? scope = some name := by
      -- one segment, for the alias itself
      have hsame := governing_eq_of_echo ha hall (List.cons_ne_nil (n, "1") []) (by simpa using hn)
      cases htarget : a.targets.find? scope with
      | none =>
        simp [Plan.governing, Plan.own, find?_saidFor_single, hnname, hname, hname.symm, hne,
          htarget] at hsame
      | some target =>
        by_cases heq : target = name
        · rw [heq]
        · simp [Plan.governing, Plan.own, find?_saidFor_single, hnname, hname, hname.symm, hne,
            htarget, Ne.symm heq] at hsame
    refine ⟨hback, ?_⟩
    rintro ⟨m, hm, hmscope⟩
    -- two segments, one for each of the two
    have hsame := governing_eq_of_echo ha hall (List.cons_ne_nil (n, "1") [(m, "2")])
      (by simpa using ⟨hn, hm⟩)
    simp [Plan.governing, Plan.own, find?_saidFor_pair, hnname, hmscope, hname.symm, hscope.symm,
      hne.symm] at hsame
  · rintro target htarget hother ⟨n, hn, hntarget⟩
    -- one segment, for the further scope
    have hsame := governing_eq_of_echo ha hall (List.cons_ne_nil (n, "1") []) (by simpa using hn)
    have hloop := hvalid.irreflexive htarget
    have hwild := hvalid.scope_ne htarget
    simp [Plan.governing, Plan.own, find?_saidFor_single, hntarget, h, htarget, hother, hloop.symm,
      hwild, hwild.symm] at hsame

/-- **An alias selects what its scope selects, in every directive and with every leaf function,
exactly when nothing can be said for the alias itself and nothing for a further scope that its scope
stands for.** -/
theorem inScope_eq_iff_selectsAlike (ha : a.Reachable) (h : a.targets.find? name = some scope) :
    (∀ {σ α : Type} (leaf : String → String → ExceptT Error (StateM σ) (Option α))
      (directive : String) (s s' : σ) (p : Plan α),
      ((read directive).plan a leaf).run.run s = (.ok p, s') → p.inScope name = p.inScope scope) ↔
    a.SelectsAlike name scope := by
  constructor
  · intro hall
    exact selectsAlike_of_echo ha h fun directive p => hall echo directive () () p
  · intro halike σ α leaf directive s s' p hrun
    exact inScope_eq_of_plan ha h halike (scopesIn_read directive) hrun

end Distinguishing

/-- A single alias selects what its scope selects. -/
theorem inScope_eq_of_single :
    Aliases.Reachable ⟨[("a", "b")]⟩ ∧
    ∀ {σ α : Type} (leaf : String → String → ExceptT Error (StateM σ) (Option α))
      (directive : String) (s s' : σ) (p : Plan α),
      ((read directive).plan ⟨[("a", "b")]⟩ leaf).run.run s = (.ok p, s') →
        p.inScope "a" = p.inScope "b" := by
  refine ⟨Aliases.reachable_single, (inScope_eq_iff_selectsAlike Aliases.reachable_single rfl).2 ?_⟩
  refine Aliases.selectsAlike_of_unchained rfl (fun n hn => ?_) rfl
  simp [Dict.find?] at hn

/-- In a chain of two aliases something that is said for the second one governs the scope in the
middle and not its alias. -/
theorem inScope_ne_of_chain :
    Aliases.Reachable ⟨[("a", "b"), ("b", "c")]⟩ ∧
    ∃ p : Plan String,
      ((read "b:+=1").plan ⟨[("a", "b"), ("b", "c")]⟩ echo).run.run () = (.ok p, ()) ∧
        p.inScope "a" ≠ p.inScope "b" := by
  have hwritten : "b:+=1" = written [("b", "+=1")] := by decide
  have hname : ∀ s ∈ [("b", "+=1")], IsScopeName s.1 := by
    simp only [List.mem_singleton, forall_eq]
    decide
  refine ⟨Aliases.reachable_chain, _, hwritten ▸ plan_written _ (List.cons_ne_nil _ _) hname, ?_⟩
  intro h
  cases h

end Directive

end FieldRules
