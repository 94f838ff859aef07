import FieldRules.Proofs.Constraint.Grammar

/-!
# What names mean

The constraint of a name is looked up in three places, one after the other.  No name is in two of
them, so the order has no influence, and a name means what `Names` says it does.

## Main statements

* `Signature.build_eq_ok_iff` — what a signature accepts.
* `ofName_eq_ok_iff` — what a name accepts.
-/

namespace FieldRules.Constraint

/-! ## The tables -/

/-- In a list with distinct keys the first element of a key is the only one. -/
theorem find?_eq_some_of_mem {α : Type} {key : α → String} {l : List α} {a : α}
    (hkeys : (l.map key).Nodup) (h : a ∈ l) : (l.find? fun b => key b == key a) = some a := by
  induction l with
  | nil => cases h
  | cons b rest ih =>
    rw [List.map_cons, List.nodup_cons] at hkeys
    rcases List.mem_cons.1 h with rfl | h
    · simp
    · have hne : (key b == key a) = false := by
        rw [beq_eq_false_iff_ne]
        intro heq
        exact hkeys.1 (heq ▸ List.mem_map_of_mem h)
      rw [List.find?_cons, hne]
      exact ih hkeys.2 h

theorem lookup_shortcuts_eq_some_iff {name : String} {c : Constraint} :
    shortcuts.lookup name = some c ↔ (name, c) ∈ shortcuts := by
  constructor
  · intro h
    obtain ⟨before, after, heq, -⟩ := List.lookup_eq_some_iff.1 h
    rw [heq]
    simp
  · intro h
    simp only [shortcuts, List.mem_cons, Prod.mk.injEq, List.not_mem_nil, or_false] at h
    rcases h with ⟨rfl, rfl⟩ | ⟨rfl, rfl⟩ | ⟨rfl, rfl⟩ | ⟨rfl, rfl⟩ | ⟨rfl, rfl⟩ <;> rfl

theorem find?_signatures_eq_some_iff {name : String} {s : Signature} :
    (signatures.find? fun s => s.name == name) = some s ↔ s ∈ signatures ∧ s.name = name := by
  constructor
  · intro h
    exact ⟨List.mem_of_find?_eq_some h, by simpa using List.find?_some h⟩
  · rintro ⟨hs, rfl⟩
    exact find?_eq_some_of_mem (by decide) hs

/-- No name with the sign in front is a shortcut. -/
theorem lookup_shortcuts_of_sigil {name : String} (h : name.toList.head? = some sigil) :
    shortcuts.lookup name = none := by
  cases hfound : shortcuts.lookup name with
  | none => rfl
  | some c =>
    have hplain : ∀ e ∈ shortcuts.map Prod.fst, e.toList.head? ≠ some sigil := by decide
    exact absurd h (hplain name (List.mem_map_of_mem (lookup_shortcuts_eq_some_iff.1 hfound)))

theorem lookup_shortcuts_of_mem_signatures {s : Signature} (hs : s ∈ signatures) :
    shortcuts.lookup s.name = none := by
  have hnone : ∀ s ∈ signatures, (shortcuts.lookup s.name).isNone = true := by decide
  exact Option.isNone_iff_eq_none.1 (hnone s hs)

theorem head?_name_of_mem_signatures {s : Signature} (hs : s ∈ signatures) :
    s.name.toList.head? ≠ some sigil := by
  have hplain : ∀ s ∈ signatures, s.name.toList.head? ≠ some sigil := by decide
  exact hplain s hs

/-! ## Signatures -/

/-- The parameters that are left after the first one, which stays when it is the last. -/
def followers (p : Parameter) (more : List Parameter) : List Parameter :=
  if more.isEmpty then [p] else more

theorem followers_ne_nil (p : Parameter) (more : List Parameter) : followers p more ≠ [] := by
  cases more <;> simp [followers]

/-- The parameter at a place is the one at the place before among those that are left. -/
theorem getElem?_followers (p : Parameter) (more : List Parameter) (i : Nat) :
    (followers p more)[min i ((followers p more).length - 1)]? =
      (p :: more)[min (i + 1) ((p :: more).length - 1)]? := by
  cases more with
  | nil => simp [followers]
  | cons q more =>
    have hshift : min (i + 1) (more.length + 1) = min i more.length + 1 := by omega
    simp [followers, hshift]

theorem converts_nil_iff {parameters : List Parameter} {arguments : List Argument} :
    Converts parameters [] arguments ↔ arguments = [] := by
  constructor
  · intro h
    simpa using h.length_eq
  · rintro rfl
    exact ⟨rfl, by simp⟩

/-- The first argument is read by the first parameter, and the others by those that are left. -/
theorem converts_cons_iff {p : Parameter} {more : List Parameter} {r : RawArgument}
    {raw : List RawArgument} {arguments : List Argument} :
    Converts (p :: more) (r :: raw) arguments ↔
      ∃ a rest, arguments = a :: rest ∧ readArgument p r = .ok a ∧
        Converts (followers p more) raw rest := by
  constructor
  · rintro ⟨hlength, hreads⟩
    obtain ⟨a, rest, rfl⟩ := List.exists_cons_of_length_eq_add_one hlength
    refine ⟨a, rest, rfl, hreads 0 p r a (by simp) rfl rfl, by simpa using hlength, ?_⟩
    intro i q s b hq hs hb
    rw [getElem?_followers] at hq
    exact hreads (i + 1) q s b hq (by simpa using hs) (by simpa using hb)
  · rintro ⟨a, rest, rfl, hread, hlength, hreads⟩
    refine ⟨by simp [hlength], fun i q s b hq hs hb => ?_⟩
    cases i with
    | zero =>
      simp only [Nat.zero_min, List.getElem?_cons_zero, Option.some.injEq] at hq hs hb
      rw [← hq, ← hs, ← hb, hread]
    | succ i =>
      rw [← getElem?_followers] at hq
      exact hreads i q s b hq (by simpa using hs) (by simpa using hb)

/-- Reading arguments one after the other converts each by the parameter at its place. -/
theorem readArguments_eq_ok_iff {name : String} {parameters : List Parameter}
    {raw : List RawArgument} {arguments : List Argument} (hne : parameters ≠ []) (position : Nat) :
    readArguments name position parameters raw = .ok arguments ↔
      Converts parameters raw arguments := by
  induction raw generalizing parameters arguments position with
  | nil =>
    rw [converts_nil_iff, readArguments, Except.ok.injEq]
    exact eq_comm
  | cons r raw ih =>
    obtain ⟨p, more, rfl⟩ := List.exists_cons_of_ne_nil hne
    rw [converts_cons_iff, readArguments]
    cases hread : readArgument p r with
    | error text => simp
    | ok a =>
      have hrest := fun rest => @ih _ rest (followers_ne_nil p more) (position + 1)
      change Except.map (a :: ·) (readArguments name (position + 1) (followers p more) raw) = _ ↔ _
      cases htail : readArguments name (position + 1) (followers p more) raw with
      | error text =>
        simp only [htail, reduceCtorEq, false_iff] at hrest
        simp [Except.map, hrest]
      | ok rest =>
        simp only [htail, Except.ok.injEq] at hrest
        simp only [Except.map, Except.ok.injEq, ← hrest]
        constructor
        · rintro rfl
          exact ⟨a, rest, rfl, rfl, rfl⟩
        · rintro ⟨b, rest', rfl, rfl, rfl⟩
          rfl

/-- **A signature accepts the arguments that suit it**, and makes of them what its name says. -/
theorem Signature.build_eq_ok_iff {s : Signature} (hs : s ∈ signatures) {raw : List RawArgument}
    {c : Constraint} :
    s.build raw = .ok c ↔
      ∃ arguments, s.Fits raw arguments ∧ construct s.name arguments = .ok c := by
  have hne : s.parameters ≠ [] := by
    have : ∀ s ∈ signatures, s.parameters ≠ [] := by decide
    exact this s hs
  have hvariadic : s.isVariadic = true → s.parameters.length ≤ raw.length + 1 := by
    have : ∀ s ∈ signatures, s.isVariadic = true → s.parameters.length ≤ 1 := by decide
    exact fun h => Nat.le_add_left_of_le (this s hs h)
  constructor
  · intro h
    rw [Signature.build] at h
    split at h
    · cases h
    · next harity =>
      split at h
      · cases h
      · next arguments hread =>
        refine ⟨arguments, ⟨?_, (readArguments_eq_ok_iff hne 1).1 hread⟩, h⟩
        cases hv : s.isVariadic with
        | true => simpa [hv] using hvariadic hv
        | false => simpa [hv] using harity
  · rintro ⟨arguments, hfits, hbuilt⟩
    have harity : ¬((!s.isVariadic && raw.length != s.parameters.length) = true) := by
      have := hfits.arity
      cases hv : s.isVariadic <;> simp_all
    rw [Signature.build, if_neg harity, (readArguments_eq_ok_iff hne 1).2 hfits.converts]
    exact hbuilt

/-! ## Names -/

/-- **A name accepts what `Names` says**, wherever in an expression it stands. -/
theorem ofName_eq_ok_iff {vocabulary : Vocabulary} {name : String} {raw : List RawArgument}
    {rest : List Char} {c : Constraint} :
    ofName vocabulary name raw rest = .ok c ↔ Names vocabulary name raw c := by
  have hplain : ∀ d, (if raw.isEmpty then .ok d else .error ⟨.noArguments name, rest⟩ :
      Except Fault Constraint) = .ok c ↔ raw = [] ∧ d = c := by
    intro d
    cases raw <;> simp
  constructor
  · intro h
    rw [ofName] at h
    split at h
    · next d hfound =>
      obtain ⟨rfl, rfl⟩ := (hplain d).1 h
      exact .shortcut (lookup_shortcuts_eq_some_iff.1 hfound)
    · split at h
      · next hsigil =>
        split at h
        · next d hfound =>
          obtain ⟨rfl, rfl⟩ := (hplain d).1 h
          exact .declared hsigil hfound
        · cases h
      · split at h
        · cases h
        · next s hfound =>
          obtain ⟨hs, rfl⟩ := find?_signatures_eq_some_iff.1 hfound
          split at h
          · next d hbuilt =>
            cases h
            obtain ⟨arguments, hfits, hd⟩ := (Signature.build_eq_ok_iff hs).1 hbuilt
            exact .built hs hfits hd
          · cases h
  · intro h
    cases h with
    | shortcut h => simp [ofName, lookup_shortcuts_eq_some_iff.2 h]
    | declared hsigil h => simp [ofName, lookup_shortcuts_of_sigil hsigil, hsigil, h]
    | @built s _ arguments _ hs hfits hbuilt =>
      have hbuild := (Signature.build_eq_ok_iff hs).2 ⟨arguments, hfits, hbuilt⟩
      simp only [ofName, lookup_shortcuts_of_mem_signatures hs, head?_name_of_mem_signatures hs,
        if_false, find?_signatures_eq_some_iff.2 ⟨hs, rfl⟩, hbuild]

end FieldRules.Constraint
