import FieldRules.Proofs.Dict
import FieldRules.Proofs.Except
import FieldRules.Directive.Plan

/-!
# What the meanings of a directive have in common

Every meaning in the plan of a directive is one that some configuration of it was given.  So whatever
holds of each meaning that a configuration can be given holds of whatever the plan chooses.

## Main definitions

* `Plan.Each` — a property of whatever a plan chooses.
* `Directive.configs` — the configurations of a directive.

## Main statements

* `Directive.each_plan` — the plan of a directive has a property that each meaning has.
-/

namespace FieldRules

variable {α : Type} {P : α → Prop}

/-- Whatever a plan chooses in any scope has a property. -/
def Plan.Each (P : α → Prop) : Plan α → Prop
  | .nothing => True
  | .scoped byScope fallback =>
    ∀ scope chosen, choose byScope fallback scope = some chosen → P chosen
  | .compose _ left right => Each P left ∧ Each P right

/-- Whatever a dictionary has under any key has a property. -/
def Dict.Each (P : α → Prop) (d : Dict α) : Prop := ∀ key value, d.find? key = some value → P value

namespace Dict

variable {d : Dict α}

theorem each_nil : Each P [] := nofun

theorem Each.insert (h : d.Each P) (key : String) {value : α} (hvalue : P value) :
    (d.insert key value).Each P := by
  intro key' value' hfound
  rw [find?_insert] at hfound
  split at hfound
  · cases hfound
    exact hvalue
  · exact h key' value' hfound

theorem Each.erase (h : d.Each P) (key : String) : (d.erase key).Each P := by
  intro key' value' hfound
  rw [find?_erase] at hfound
  split at hfound
  · cases hfound
  · exact h key' value' hfound

end Dict

namespace Plan

variable {scopes : Dict α}

theorem each_of_forall (h : ∀ a, P a) (p : Plan α) : p.Each P := by
  induction p with
  | nothing => trivial
  | «scoped» byScope fallback => exact fun _ chosen _ => h chosen
  | compose op left right ihleft ihright => exact ⟨ihleft, ihright⟩

/-- An alias is given only what a scope has. -/
theorem each_addAliases (aliases : Aliases) (h : scopes.Each P) :
    (addAliases aliases scopes).Each P := by
  refine List.foldlRecOn aliases.targets _ h fun d hd e _ => ?_
  cases hsaid : scopes.find? e.2 with
  | none => exact hd
  | some said =>
    dsimp only
    split
    · exact hd
    · exact hd.insert e.1 (h e.2 said hsaid)

theorem each_scoped {byScope : Dict α} {fallback : Option α} (hbyScope : byScope.Each P)
    (hfallback : ∀ said, fallback = some said → P said) : (Plan.scoped byScope fallback).Each P := by
  intro scope chosen hchosen
  rw [choose] at hchosen
  split at hchosen
  · next said hsaid =>
    cases hchosen
    exact hbyScope scope _ hsaid
  · exact hfallback chosen hchosen

theorem each_ofScopes (aliases : Aliases) (h : scopes.Each P) : (ofScopes aliases scopes).Each P := by
  simp only [ofScopes]
  split
  · split
    · next said hsaid =>
      refine each_scoped Dict.each_nil fun said' heq => ?_
      cases heq
      exact h wildcard said hsaid
    · trivial
  · exact each_scoped (each_addAliases aliases (h.erase wildcard)) fun said hsaid => h _ said hsaid

theorem Each.composed {left right : Plan α} (hleft : left.Each P) (hright : right.Each P)
    (op : Composition) : (composed op left right).Each P := by
  rw [Plan.composed]
  split
  · trivial
  · exact ⟨hleft, hright⟩

end Plan

namespace Directive

/-- The configurations of a directive, of all segments on every side of its compositions. -/
def configs : Directive → List String
  | .segments ss => ss.map Segment.config
  | .oneSided _ _ => []
  | .compose left _ right => left.map Segment.config ++ configs right

variable {aliases : Aliases} {leaf : String → String → Except Error (Option α)}

section

variable {segments : List Segment}
  (hleaf : ∀ config ∈ segments.map Segment.config, ∀ {scope meaning},
    leaf scope config = .ok (some meaning) → P meaning)
include hleaf

theorem each_meanings {scopes scopes' : Dict α} (hscopes : scopes.Each P)
    (h : meanings aliases leaf scopes segments = .ok scopes') : scopes'.Each P := by
  induction segments generalizing scopes with
  | nil =>
    cases h
    exact hscopes
  | cons s rest ih =>
    obtain ⟨hfirst, hrest⟩ := List.forall_mem_cons.1 hleaf
    obtain ⟨meaning?, hmeaning, h⟩ := bind_eq_ok_iff.1 h
    cases meaning? with
    | none => exact ih hrest (hscopes.erase _) h
    | some meaning => exact ih hrest (hscopes.insert _ (hfirst hmeaning)) h

theorem each_segmentsPlan {p : Plan α} (h : segmentsPlan aliases leaf segments = .ok p) :
    p.Each P := by
  obtain ⟨scopes, hscopes, h⟩ := bind_eq_ok_iff.1 h
  cases h
  exact Plan.each_ofScopes aliases (each_meanings hleaf Dict.each_nil hscopes)

end

/-- Whatever the plan of a directive chooses has a property that each meaning of its configurations
has. -/
theorem each_plan {d : Directive} {p : Plan α}
    (hleaf : ∀ config ∈ d.configs, ∀ {scope meaning},
      leaf scope config = .ok (some meaning) → P meaning)
    (h : d.plan aliases leaf = .ok p) : p.Each P := by
  induction d generalizing p with
  | segments ss => exact each_segmentsPlan hleaf h
  | oneSided text op => cases h
  | compose left op right ih =>
    obtain ⟨hleft, hright⟩ := List.forall_mem_append.1 hleaf
    obtain ⟨l, hl, h⟩ := bind_eq_ok_iff.1 h
    obtain ⟨r, hr, h⟩ := bind_eq_ok_iff.1 h
    cases h
    exact (each_segmentsPlan hleft hl).composed (ih hright hr) op

end Directive

end FieldRules
