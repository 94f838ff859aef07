import FieldRules.Dict
import Mathlib.Data.List.Sort

/-!
# Dictionaries by their keys

The entries of a dictionary stand in strictly increasing order of their keys, so a key has one entry
at most and the lookup tells all there is.

## Main definitions

* `Dict.Sorted` — the order of the entries, which every operation keeps.

## Main statements

* `Dict.find?_eq_some_iff`, `Dict.mem_keys_iff` — the lookup finds exactly the entries.
* `Dict.find?_erase`, `Dict.find?_ofList`, `Dict.find?_filterMap` — what the operations do to the
  lookup.
* `Dict.Sorted.ext` — dictionaries that look up alike are equal.
-/

namespace FieldRules.Dict

variable {α : Type} {d : Dict α} {key : String} {value : α}

/-- The entries are in strictly increasing order of their keys. -/
def Sorted (d : Dict α) : Prop := List.Pairwise (fun a b => a.1 < b.1) d

@[simp] theorem sorted_nil : Sorted ([] : Dict α) := List.Pairwise.nil

theorem mem_of_mem_insert {e : String × α} (h : e ∈ insert d key value) :
    e = (key, value) ∨ e ∈ d := by
  induction d with
  | nil => exact .inl (List.mem_singleton.1 h)
  | cons head rest ih =>
    obtain ⟨k, v⟩ := head
    rw [insert] at h
    split at h
    · rcases List.mem_cons.1 h with rfl | h
      · exact .inr (by simp)
      · exact (ih h).imp_right (List.mem_cons_of_mem _)
    · split at h
      · rcases List.mem_cons.1 h with rfl | h
        · exact .inl rfl
        · exact .inr (List.mem_cons_of_mem _ h)
      · exact List.mem_cons.1 h

/-- An entry goes before the first one with a greater key. -/
theorem Sorted.insert (hd : Sorted d) (key : String) (value : α) :
    Sorted (Dict.insert d key value) := by
  induction d with
  | nil => exact List.pairwise_singleton _ _
  | cons head rest ih =>
    obtain ⟨k, v⟩ := head
    obtain ⟨hhead, hrest⟩ := List.pairwise_cons.1 hd
    rw [Dict.insert]
    split
    · next hlt =>
      refine List.pairwise_cons.2 ⟨fun e he => ?_, ih hrest⟩
      rcases mem_of_mem_insert he with rfl | he
      · exact hlt
      · exact hhead e he
    · next hnot =>
      split
      · next heq =>
        subst heq
        exact List.pairwise_cons.2 ⟨hhead, hrest⟩
      · next hne =>
        have hlt : key < k := by
          by_cases h : key < k
          · exact h
          · exact absurd (String.le_antisymm (String.not_lt.1 h) (String.not_lt.1 hnot)) hne
        refine List.pairwise_cons.2 ⟨fun e he => ?_, hd⟩
        rcases List.mem_cons.1 he with rfl | he
        · exact hlt
        · exact String.lt_trans hlt (hhead e he)

theorem Sorted.ofList (entries : List (String × α)) : Sorted (Dict.ofList entries) := by
  have hfold : ∀ d : Dict α, Sorted d →
      Sorted (entries.foldl (fun d e => Dict.insert d e.1 e.2) d) := by
    induction entries with
    | nil => exact fun _ hd => hd
    | cons e rest ih => exact fun d hd => ih _ (hd.insert e.1 e.2)
  exact hfold [] sorted_nil

/-! ## Lookups -/

theorem mem_of_find?_eq_some (h : find? d key = some value) : (key, value) ∈ d := by
  induction d with
  | nil => cases h
  | cons head rest ih =>
    obtain ⟨k, v⟩ := head
    rw [find?] at h
    split at h
    · next heq =>
      subst heq
      cases h
      simp
    · exact List.mem_cons_of_mem _ (ih h)

/-- The lookup finds exactly the entries. -/
theorem find?_eq_some_iff (hd : Sorted d) : find? d key = some value ↔ (key, value) ∈ d := by
  refine ⟨mem_of_find?_eq_some, fun h => ?_⟩
  induction d with
  | nil => cases h
  | cons head rest ih =>
    obtain ⟨k, v⟩ := head
    obtain ⟨hhead, hrest⟩ := List.pairwise_cons.1 hd
    rw [find?]
    rcases List.mem_cons.1 h with heq | h
    · cases heq
      simp
    · have hne : k ≠ key := by
        rintro rfl
        exact String.lt_irrefl k (hhead _ h)
      rw [if_neg hne]
      exact ih hrest h

theorem mem_keys_iff : key ∈ d.keys ↔ d.find? key ≠ none := by
  induction d with
  | nil => simp [keys, find?]
  | cons e rest ih =>
    obtain ⟨k, v⟩ := e
    rw [keys] at ih ⊢
    by_cases hk : k = key
    · simp [find?, hk]
    · simp [find?, hk, Ne.symm hk, ← ih]

/-- What `erase` does to the view by keys. -/
theorem find?_erase (d : Dict α) (key key' : String) :
    find? (erase d key) key' = if key = key' then none else find? d key' := by
  induction d with
  | nil => simp [erase, find?]
  | cons head rest ih =>
    obtain ⟨k, v⟩ := head
    simp only [erase] at ih
    by_cases hk : k = key
    · subst hk
      simp only [erase, List.filter_cons, bne_self_eq_false, Bool.false_eq_true, if_false, ih,
        find?]
      by_cases h : k = key' <;> simp [h]
    · have hkeep : (k != key) = true := by simpa using hk
      simp only [erase, List.filter_cons, hkeep, if_true, find?, ih]
      by_cases h : k = key'
      · subst h
        simp [Ne.symm hk]
      · simp [h]

/-- What `ofList` makes of entries, by keys: the last value of a key is kept. -/
theorem find?_ofList (entries : List (String × α)) (key : String) :
    find? (ofList entries) key =
      (entries.reverse.find? fun e => e.1 == key).map Prod.snd := by
  have hfold : ∀ d : Dict α,
      find? (entries.foldl (fun d e => Dict.insert d e.1 e.2) d) key =
        ((entries.reverse.find? fun e => e.1 == key).map Prod.snd).or (find? d key) := by
    induction entries with
    | nil => simp
    | cons e rest ih =>
      intro d
      rw [List.foldl_cons, ih, find?_insert, List.reverse_cons, List.find?_append]
      cases rest.reverse.find? fun e => e.1 == key with
      | some found => simp
      | none => by_cases h : e.1 = key <;> simp [h]
  simpa [ofList, find?] using hfold []

theorem mem_keys_ofList {entries : List (String × α)} :
    key ∈ keys (ofList entries) ↔ key ∈ entries.map Prod.fst := by
  rw [mem_keys_iff, find?_ofList, ne_eq, Option.map_eq_none_iff, List.find?_eq_none]
  simp

/-- Entries with different keys are all kept. -/
theorem find?_ofList_of_mem {entries : List (String × α)} (hkeys : (entries.map Prod.fst).Nodup)
    (h : (key, value) ∈ entries) : find? (ofList entries) key = some value := by
  rw [find?_ofList]
  cases hfound : entries.reverse.find? fun e => e.1 == key with
  | none => exact absurd (List.find?_eq_none.1 hfound _ (List.mem_reverse.2 h)) (by simp)
  | some e =>
    have hmem := List.mem_reverse.1 (List.mem_of_find?_eq_some hfound)
    have hkey := List.find?_some hfound
    rw [List.inj_on_of_nodup_map hkeys hmem h (beq_iff_eq.1 hkey)]
    rfl

/-! ## Parts of a dictionary -/

theorem Sorted.filter (hd : Sorted d) (p : String × α → Bool) : Sorted (List.filter p d) :=
  List.Pairwise.filter p hd

/-- Changing or leaving out values keeps the order of the keys. -/
theorem Sorted.filterMap {β : Type} (hd : Sorted d) (f : String × α → Option β) :
    Sorted (List.filterMap (fun e => (f e).map fun b => (e.1, b)) d) := by
  refine List.Pairwise.filterMap _ (fun a b hlt x hx y hy => ?_) hd
  obtain ⟨_, -, rfl⟩ := Option.map_eq_some_iff.1 hx
  obtain ⟨_, -, rfl⟩ := Option.map_eq_some_iff.1 hy
  exact hlt

/-- What leaving out keys does to the lookup. -/
theorem find?_filter_key (d : Dict α) (p : String → Bool) (key : String) :
    find? (List.filter (fun e => p e.1) d) key = if p key then find? d key else none := by
  induction d with
  | nil => simp [find?]
  | cons e rest ih =>
    obtain ⟨k, v⟩ := e
    by_cases hk : k = key
    · subst hk
      by_cases hp : p k = true <;> simp [find?, hp, ih]
    · by_cases hp : p k = true <;> simp [find?, hp, hk, ih]

/-- What changing or leaving out values does to the lookup. -/
theorem find?_filterMap {β : Type} (hd : Sorted d) (f : String × α → Option β) (key : String) :
    find? (List.filterMap (fun e => (f e).map fun b => (e.1, b)) d) key =
      (find? d key).bind fun v => f (key, v) := by
  have hkept : ∀ {b : β}, (key, b) ∈ List.filterMap (fun e => (f e).map fun b => (e.1, b)) d ↔
      ∃ v, (key, v) ∈ d ∧ f (key, v) = some b := by
    intro b
    constructor
    · intro h
      obtain ⟨⟨k, v⟩, hmem, he⟩ := List.mem_filterMap.1 h
      obtain ⟨b', hb, hpair⟩ := Option.map_eq_some_iff.1 he
      cases hpair
      exact ⟨v, hmem, hb⟩
    · rintro ⟨v, hmem, hb⟩
      exact List.mem_filterMap.2 ⟨(key, v), hmem, by simp [hb]⟩
  refine Option.ext fun b => ?_
  rw [find?_eq_some_iff (hd.filterMap f), hkept, Option.bind_eq_some_iff]
  simp only [find?_eq_some_iff hd]

/-- Dictionaries that look up alike are equal. -/
theorem Sorted.ext {d' : Dict α} (hd : Sorted d) (hd' : Sorted d')
    (h : ∀ key, find? d key = find? d' key) : d = d' := by
  have hmem : ∀ e, e ∈ d ↔ e ∈ d' := by
    rintro ⟨k, v⟩
    rw [← find?_eq_some_iff hd, h, find?_eq_some_iff hd']
  have : Std.Irrefl fun a b : String × α => a.1 < b.1 := ⟨fun a => String.lt_irrefl a.1⟩
  have : Std.Antisymm fun a b : String × α => a.1 < b.1 :=
    ⟨fun a b hab hba => absurd hba (String.lt_asymm hab)⟩
  exact List.Pairwise.eq_of_mem_iff hd hd' hmem

end FieldRules.Dict
