import FieldRules.Access
import FieldRules.Proofs.Except
import Mathlib.Data.List.Induction
import Mathlib.Data.List.Nodup

/-!
# The registries that calls build

A registry of principals is built from the empty one by calls, each of which adds its new names
behind those that are there, or is refused and changes nothing.  So a name keeps the position it
was given, no position belongs to two names, and what a mask grants to a registered name is the same
whatever is registered later.

## Main definitions

* `Principals.newcomers` — the names that a call adds, each where it first occurs.
* `Principals.WellFormed` — what is true of the names of every registry.
* `Principals.after`, `Principals.afterAll` — the registry after a call, and after calls in order.

## Main statements

* `Principals.register_eq_ok_iff` — which calls succeed, and what they do.
* `Principals.WellFormed.after`, `Principals.wellFormed_afterAll` — the guarantee after one call and
  after any number of them.
* `Principals.names_prefix_after`, `Principals.names_prefix_afterAll` — names keep their
  positions.
* `Principals.afterAll_registers` — all of it for any calls, some of which may fail.
-/

namespace FieldRules.Principals

variable {p q : Principals} {names : List String} {name : String}

/-- A name that may be registered: it is not empty, and no principal has it from the start. -/
def IsAcceptable (name : String) : Prop := name ≠ "" ∧ name ∉ Principal.reservedNames

/-- The names of a call that are not registered, in the order of their first occurrence. -/
def newcomers (p : Principals) (names : List String) : List String :=
  (names.filter fun name => !p.names.contains name).eraseDups

/-- What is true of the names of every registry. -/
structure WellFormed (p : Principals) : Prop where
  nodup : p.names.Nodup
  acceptable : ∀ name ∈ p.names, IsAcceptable name
  length_le : p.names.length ≤ maxPrincipals

/-! ## One call -/

/-- Without a name that is refused, the names found are those that are new. -/
theorem newNames_of_acceptable (known : List String) (h : ∀ name ∈ names, IsAcceptable name)
    (added : List String) :
    newNames known added names = .ok (added ++
      (names.filter fun name => !(known.contains name || added.contains name)).eraseDups) := by
  induction names generalizing added with
  | nil => simp [newNames]
  | cons name rest ih =>
    obtain ⟨hne, hfree⟩ := h name List.mem_cons_self
    have hrest : ∀ n ∈ rest, IsAcceptable n := fun n hn => h n (List.mem_cons_of_mem _ hn)
    have hempty : ¬name.isEmpty = true := by rwa [String.isEmpty_iff]
    have hreserved : ¬Principal.reservedNames.contains name = true := by simpa using hfree
    rw [newNames, if_neg hempty, if_neg hreserved]
    cases hknown : known.contains name || added.contains name with
    | true => rw [if_pos rfl, ih hrest, List.filter_cons_of_neg (by rw [hknown]; decide)]
    | false =>
      -- the name that was found is one of those that later ones are compared with
      have hcompared : rest.filter (fun n => !(known.contains n || (added ++ [name]).contains n)) =
          (rest.filter fun n => !(known.contains n || added.contains n)).filter
            fun n => !n == name := by
        rw [List.filter_filter]
        refine List.filter_congr fun n _ => ?_
        cases hn : n == name <;> simp_all
      rw [if_neg Bool.false_ne_true, ih hrest, List.filter_cons_of_pos (by rw [hknown]; decide),
        List.eraseDups_cons, hcompared, List.append_assoc, List.singleton_append]

/-- A name that is refused refuses the whole call. -/
theorem newNames_of_refused (known : List String) (h : ∃ name ∈ names, ¬IsAcceptable name)
    (added : List String) : ∃ e, newNames known added names = .error e := by
  induction names generalizing added with
  | nil => simp at h
  | cons name rest ih =>
    rw [newNames]
    split
    · exact ⟨_, rfl⟩
    next hempty =>
    split
    · exact ⟨_, rfl⟩
    next hreserved =>
    have hfirst : IsAcceptable name :=
      ⟨by rwa [String.isEmpty_iff] at hempty, by simpa using hreserved⟩
    have hrest : ∃ n ∈ rest, ¬IsAcceptable n := by
      obtain ⟨n, hn, hrefused⟩ := h
      rcases List.mem_cons.1 hn with rfl | hn
      · exact absurd hfirst hrefused
      · exact ⟨n, hn, hrefused⟩
    split
    · exact ih hrest added
    · exact ih hrest (added ++ [name])

/-- **Which calls succeed, and what they do**: each name may be registered, and the new ones still
find room behind those that are there. -/
theorem register_eq_ok_iff :
    p.register names = .ok q ↔
      (∀ name ∈ names, IsAcceptable name) ∧
        p.names.length + (p.newcomers names).length ≤ maxPrincipals ∧
        q = ⟨p.names ++ p.newcomers names⟩ := by
  rw [register]
  by_cases hacceptable : ∀ name ∈ names, IsAcceptable name
  · have hnew : newNames p.names [] names = .ok (p.newcomers names) := by
      simpa [newcomers] using newNames_of_acceptable p.names hacceptable []
    simp only [hnew, bind, Except.bind]
    split
    · next hfull =>
      constructor
      · intro h
        cases h
      · rintro ⟨-, hroom, -⟩
        omega
    · next hroom =>
      rw [Except.ok.injEq, eq_comm]
      exact ⟨fun h => ⟨hacceptable, by omega, h⟩, fun h => h.2.2⟩
  · obtain ⟨e, he⟩ := newNames_of_refused p.names (by simpa using hacceptable) []
    simp [he, bind, Except.bind, hacceptable]

/-- A call fails exactly when one of its names is refused or the new ones find no room. -/
theorem exists_register_eq_error_iff :
    (∃ e, p.register names = .error e) ↔
      (∃ name ∈ names, name = "" ∨ name ∈ Principal.reservedNames) ∨
        maxPrincipals < p.names.length + (p.newcomers names).length := by
  have hok : (∃ q, p.register names = .ok q) ↔
      (∀ name ∈ names, IsAcceptable name) ∧
        p.names.length + (p.newcomers names).length ≤ maxPrincipals := by
    simp [register_eq_ok_iff]
  have hother : (∃ e, p.register names = .error e) ↔ ¬∃ q, p.register names = .ok q := by
    cases p.register names <;> simp
  rw [hother, hok, Classical.not_and_iff_not_or_not, Nat.not_le]
  simp [IsAcceptable, or_iff_not_imp_left]

/-! ## What a call keeps -/

theorem nodup_eraseDups (names : List String) : names.eraseDups.Nodup := by
  induction hlength : names.length using Nat.strongRecOn generalizing names with
  | ind n ih =>
    cases names with
    | nil => simp
    | cons name rest =>
      have hshorter : (rest.filter fun other => !other == name).length < n := by
        have := List.length_filter_le (fun other => !other == name) rest
        rw [List.length_cons] at hlength
        omega
      rw [List.eraseDups_cons, List.nodup_cons, List.mem_eraseDups]
      exact ⟨by simp, ih _ hshorter _ rfl⟩

/-- A name is new when a call has it and the registry has not. -/
theorem mem_newcomers_iff : name ∈ p.newcomers names ↔ name ∈ names ∧ name ∉ p.names := by
  simp [newcomers, List.mem_eraseDups]

theorem wellFormed_empty : WellFormed .empty where
  nodup := List.nodup_nil
  acceptable _ h := nomatch h
  length_le := Nat.zero_le _

/-- A successful call keeps the guarantee. -/
theorem WellFormed.register (hp : p.WellFormed) (h : p.register names = .ok q) : q.WellFormed := by
  obtain ⟨hacceptable, hroom, rfl⟩ := register_eq_ok_iff.1 h
  refine ⟨hp.nodup.append (nodup_eraseDups _) ?_, fun name hname => ?_, ?_⟩
  · intro name hold hnew
    exact (mem_newcomers_iff.1 hnew).2 hold
  · rcases List.mem_append.1 hname with hname | hname
    · exact hp.acceptable name hname
    · exact hacceptable name (mem_newcomers_iff.1 hname).1
  · rwa [List.length_append]

/-! ## Calls in order -/

/-- The registry after a call, which leaves it as it was when it fails. -/
def after (p : Principals) (names : List String) : Principals :=
  (p.register names).toOption.getD p

/-- The registry after calls in order, from the empty one on. -/
def afterAll (calls : List (List String)) : Principals := calls.foldl after empty

theorem after_of_ok (h : p.register names = .ok q) : p.after names = q := by
  rw [after, h]
  rfl

theorem after_of_error {e : Error} (h : p.register names = .error e) : p.after names = p := by
  rw [after, h]
  rfl

@[simp] theorem afterAll_concat (calls : List (List String)) (names : List String) :
    afterAll (calls ++ [names]) = (afterAll calls).after names := by
  simp [afterAll]

/-- Every call keeps the guarantee. -/
theorem WellFormed.after (hp : p.WellFormed) (names : List String) :
    (p.after names).WellFormed := by
  cases h : p.register names with
  | ok q => exact after_of_ok h ▸ hp.register h
  | error e => exact (after_of_error h).symm ▸ hp

/-- The guarantee holds of every registry that calls build. -/
theorem wellFormed_afterAll (calls : List (List String)) : (afterAll calls).WellFormed := by
  induction calls using List.reverseRecOn with
  | nil => exact wellFormed_empty
  | append_singleton calls names ih => exact afterAll_concat calls names ▸ ih.after names

/-- A call adds names at the end, if it adds any. -/
theorem names_prefix_after (p : Principals) (names : List String) :
    p.names <+: (p.after names).names := by
  cases h : p.register names with
  | ok q =>
    obtain ⟨-, -, rfl⟩ := register_eq_ok_iff.1 h
    rw [after_of_ok h]
    exact List.prefix_append _ _
  | error e => simp [after_of_error h]

/-- The names that are there stay in front, whatever is registered later. -/
theorem names_prefix_afterAll (calls later : List (List String)) :
    (afterAll calls).names <+: (afterAll (calls ++ later)).names := by
  induction later using List.reverseRecOn with
  | nil => simp
  | append_singleton later names ih =>
    rw [← List.append_assoc, afterAll_concat]
    exact ih.trans (names_prefix_after _ _)

/-! ## Positions -/

/-- A name stands where its position says. -/
theorem getElem?_of_position? {i : Nat} (h : p.position? name = some i) :
    p.names[i]? = some name := by
  obtain ⟨hi, hname, -⟩ := List.findIdx?_eq_some_iff_getElem.1 h
  rw [List.getElem?_eq_getElem hi, beq_iff_eq.1 hname]

/-- Where the names differ, a name has the position at which it stands. -/
theorem WellFormed.position?_eq_some_iff (hp : p.WellFormed) {i : Nat} :
    p.position? name = some i ↔ p.names[i]? = some name := by
  refine ⟨getElem?_of_position?, fun h => ?_⟩
  obtain ⟨hi, hname⟩ := List.getElem?_eq_some_iff.1 h
  refine List.findIdx?_eq_some_iff_getElem.2 ⟨hi, by simp [hname], fun j hji => ?_⟩
  have hne : p.names[j] ≠ p.names[i] := fun heq =>
    absurd (hp.nodup.getElem_inj_iff.1 heq) (by omega)
  simpa [hname] using hne

/-- A registered name keeps its position when names are added behind it. -/
theorem position?_of_prefix (h : p.names <+: q.names) (hname : name ∈ p.names) :
    q.position? name = p.position? name := by
  obtain ⟨more, hmore⟩ := h
  have hfound : (p.names.findIdx? (· == name)).isSome = true := by
    rw [List.findIdx?_isSome]
    exact List.any_eq_true.2 ⟨name, hname, beq_self_eq_true name⟩
  rw [position?, position?, ← hmore, List.findIdx?_append]
  exact Option.or_of_isSome hfound

/-- **A registry after any calls**, some of which may have failed.  Its names differ, are neither
empty nor reserved, and are not too many.  The next call fails exactly when one of its names is
refused or the new ones find no room, and then it changes nothing; otherwise it adds the new names
behind those that are there.  So no position belongs to two names, and a registered name keeps both
its position and what a mask grants to it. -/
theorem afterAll_registers (calls : List (List String)) :
    (afterAll calls).WellFormed ∧
      (∀ names,
        ((∃ e, (afterAll calls).register names = .error e) ↔
          (∃ name ∈ names, name = "" ∨ name ∈ Principal.reservedNames) ∨
            maxPrincipals <
              (afterAll calls).names.length + ((afterAll calls).newcomers names).length) ∧
        (∀ e, (afterAll calls).register names = .error e →
          afterAll (calls ++ [names]) = afterAll calls) ∧
        ∀ q, (afterAll calls).register names = .ok q →
          afterAll (calls ++ [names]) = q ∧
            q.names = (afterAll calls).names ++ (afterAll calls).newcomers names) ∧
      (∀ name name' i, (afterAll calls).position? name = some i →
        (afterAll calls).position? name' = some i → name = name') ∧
      ∀ later name, name ∈ (afterAll calls).names →
        (afterAll (calls ++ later)).position? name = (afterAll calls).position? name ∧
          ∀ mask kind, (afterAll (calls ++ later)).allows mask (.named name) kind =
            (afterAll calls).allows mask (.named name) kind := by
  refine ⟨wellFormed_afterAll calls, fun names => ⟨exists_register_eq_error_iff, fun e he => ?_,
    fun q hq => ?_⟩, fun name name' i h h' => ?_, fun later name hname => ?_⟩
  · rw [afterAll_concat, after_of_error he]
  · rw [afterAll_concat, after_of_ok hq]
    exact ⟨rfl, congrArg Principals.names (register_eq_ok_iff.1 hq).2.2⟩
  · exact Option.some.inj ((getElem?_of_position? h).symm.trans (getElem?_of_position? h'))
  · have hposition := position?_of_prefix (names_prefix_afterAll calls later) hname
    exact ⟨hposition, fun mask kind => by rw [allows, allows, hposition]⟩

/-- The calls of a newsroom; the second of them is refused. -/
def newsroom : List (List String) :=
  [["editor", "author"], ["guest", "ReadAll"], ["author", "reader", "reader"]]

theorem afterAll_registers_newsroom :
    afterAll newsroom = ⟨["editor", "author", "reader"]⟩ ∧
      (∃ e, (afterAll newsroom).register ["guest", ""] = .error e) ∧
      afterAll (newsroom ++ [["guest", ""]]) = afterAll newsroom ∧
      (afterAll (newsroom ++ [["guest"]])).position? "author" = some 1 := by
  obtain ⟨-, hcall, -, hkept⟩ := afterAll_registers newsroom
  obtain ⟨hfails, hunchanged, -⟩ := hcall ["guest", ""]
  obtain ⟨e, he⟩ := hfails.2 (.inl ⟨"", by decide, .inl rfl⟩)
  have hposition := (hkept [["guest"]] "author" (by decide)).1
  exact ⟨by decide, ⟨e, he⟩, hunchanged e he, hposition.trans (by decide)⟩

end FieldRules.Principals
