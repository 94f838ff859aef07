import FieldRules.Proofs.FieldType

/-!
# Contents that read back as themselves

What an attribute stores is read as a value, and the value can be stored again.  What is stored then
is what was read, except where two contents read as the same value: an optional that is absent reads
as null, and so does one that holds a null.  A content that was itself stored from a value never
holds such a null, since a null is stored as absence where it can be.

Numbers of single precision are left out, for reading back a number of theirs rounds it again.

## Main definitions

* `FieldType.isUnambiguous` — the types in which no optional holds what may itself be null.
* `FieldType.RoundTrips` — a content that reads back as itself.

## Main statements

* `FieldType.exists_ofValue_toValue` — what is read can be stored, and then reads the same.
* `FieldType.ofValue_toValue` — which contents read back as themselves.
-/

namespace FieldRules.FieldType

variable {t item : FieldType} {v : Value}

/-- Whether a type has numbers of single precision in it. -/
def hasSingle : FieldType → Bool
  | .single => true
  | .optional item => hasSingle item
  | .list item => hasSingle item
  | .dict item => hasSingle item
  | _ => false

/-- Whether a type is neither made of another type nor of single precision. -/
def isScalar : FieldType → Bool
  | .single => false
  | .optional _ => false
  | .list _ => false
  | .dict _ => false
  | _ => true

/-- Whether something that the type stores reads as null. -/
def mayBeNull : FieldType → Bool
  | .any => true
  | .optional _ => true
  | _ => false

/-- Whether no optional in the type is one of an optional or of any value. -/
def isUnambiguous : FieldType → Bool
  | .optional item => !mayBeNull item && isUnambiguous item
  | .list item => isUnambiguous item
  | .dict item => isUnambiguous item
  | _ => true

/-- A content whose value is stored as this content. -/
def RoundTrips (t : FieldType) (x : t.Content) : Prop := t.ofValue (t.toValue x) = .ok x

/-! ## Nulls -/

theorem isNull_toValue (ht : t.mayBeNull = false) (x : t.Content) :
    (t.toValue x).isNull = false := by
  cases t <;> first | rfl | cases ht

theorem exists_isNull_toValue (ht : t.mayBeNull = true) :
    ∃ x, (t.toValue x).isNull = true := by
  cases t with
  | any => exact ⟨Value.null, rfl⟩
  | optional item => exact ⟨none, rfl⟩
  | _ => cases ht

/-- What is stored for a value that is not null does not read as null. -/
theorem isNull_toValue_of_ofValue {x : t.Content} (h : t.ofValue v = .ok x)
    (hv : v.isNull = false) : (t.toValue x).isNull = false := by
  induction t with
  | any =>
    cases h
    exact hv
  | optional item ih =>
    rw [ofValue_optional hv] at h
    obtain ⟨c, hc, rfl⟩ := map_eq_ok_iff.1 h
    exact ih hc
  | _ => rfl

/-! ## Contents by their types -/

theorem roundTrips_none : RoundTrips (.optional item) none := ofValue_optional_of_isNull rfl

/-- A value is stored as something that is there when it is not null. -/
theorem ofValue_optional_eq_some_iff {c : item.Content} :
    ofValue (.optional item) v = .ok (some c) ↔ v.isNull = false ∧ item.ofValue v = .ok c := by
  cases hv : v.isNull with
  | true =>
    rw [ofValue_optional_of_isNull hv]
    constructor
    · intro h
      cases h
    · rintro ⟨h, -⟩
      cases h
  | false =>
    rw [ofValue_optional hv]
    constructor
    · intro h
      obtain ⟨c', hc', heq⟩ := map_eq_ok_iff.1 h
      cases heq
      exact ⟨rfl, hc'⟩
    · rintro ⟨-, h⟩
      rw [h]
      rfl

/-- Something that is there reads back as itself when it does not read as null. -/
theorem roundTrips_some_iff {c : item.Content} :
    RoundTrips (.optional item) (some c) ↔
      (item.toValue c).isNull = false ∧ item.RoundTrips c :=
  ofValue_optional_eq_some_iff

theorem roundTrips_list_iff {cs : List item.Content} :
    RoundTrips (.list item) cs ↔ ∀ c ∈ cs, item.RoundTrips c := by
  change (cs.map item.toValue).mapM item.ofValue = .ok cs ↔ _
  rw [mapM_eq_ok_iff, List.forall₂_map_left_iff, List.forall₂_same]
  rfl

theorem roundTrips_dict_iff {es : List (String × item.Content)} :
    RoundTrips (.dict item) es ↔ ∀ e ∈ es, item.RoundTrips e.2 := by
  change (es.map fun e => (e.1, item.toValue e.2)).mapM
    (fun e => (item.ofValue e.2).map fun c => (e.1, c)) = .ok es ↔ _
  rw [mapM_eq_ok_iff, List.forall₂_map_left_iff, List.forall₂_same]
  refine forall₂_congr fun e _ => ?_
  rw [map_eq_ok_iff]
  simp [RoundTrips, Prod.ext_iff]

/-- Numbers, truth values, texts and values of any form read back as themselves. -/
theorem roundTrips_of_isScalar (ht : t.isScalar = true) (x : t.Content) : t.RoundTrips x := by
  cases t with
  | int width => exact dif_pos x.2
  | uint width => exact dif_pos x.2
  | bool | double | text | any => rfl
  | single | optional item | list item | dict item => cases ht

/-! ## Contents that were stored -/

theorem exists_items {cs : List item.Content} (h : ofValue (.list item) v = .ok cs) :
    ∃ items : List Value, items.mapM item.ofValue = .ok cs := by
  obtain ⟨w, -, h⟩ := bind_eq_ok_iff.1 h
  cases w with
  | list items => exact ⟨items, h⟩
  | _ => cases h

theorem exists_entries {es : List (String × item.Content)} (h : ofValue (.dict item) v = .ok es) :
    ∃ entries : List (String × Value),
      entries.mapM (fun e => (item.ofValue e.2).map fun c => (e.1, c)) = .ok es := by
  obtain ⟨w, -, h⟩ := bind_eq_ok_iff.1 h
  cases w with
  | map entries => exact ⟨entries, h⟩
  | _ => cases h

/-- What was stored for a value reads back as itself. -/
theorem roundTrips_of_ofValue (ht : t.hasSingle = false) {x : t.Content}
    (h : t.ofValue v = .ok x) : t.RoundTrips x := by
  induction t generalizing v with
  | single => cases ht
  | optional item ih =>
    cases x with
    | none => exact roundTrips_none
    | some c =>
      obtain ⟨hv, hc⟩ := ofValue_optional_eq_some_iff.1 h
      exact roundTrips_some_iff.2 ⟨isNull_toValue_of_ofValue hc hv, ih ht hc⟩
  | list item ih =>
    obtain ⟨items, hitems⟩ := exists_items h
    refine roundTrips_list_iff.2 fun c hc => ?_
    obtain ⟨v', -, hv'⟩ := exists_of_mem_mapM hitems hc
    exact ih ht hv'
  | dict item ih =>
    obtain ⟨entries, hentries⟩ := exists_entries h
    refine roundTrips_dict_iff.2 fun e he => ?_
    obtain ⟨e', -, he'⟩ := exists_of_mem_mapM hentries he
    obtain ⟨c, hc, rfl⟩ := map_eq_ok_iff.1 he'
    exact ih ht hc
  | _ => exact roundTrips_of_isScalar rfl x

/-! ## All contents -/

theorem roundTrips_of_isUnambiguous (hsingle : t.hasSingle = false)
    (ht : t.isUnambiguous = true) (x : t.Content) : t.RoundTrips x := by
  induction t with
  | single => cases hsingle
  | optional item ih =>
    rw [isUnambiguous, Bool.and_eq_true, Bool.not_eq_true'] at ht
    cases x with
    | none => exact roundTrips_none
    | some c => exact roundTrips_some_iff.2 ⟨isNull_toValue ht.1 c, ih hsingle ht.2 c⟩
  | list item ih => exact roundTrips_list_iff.2 fun c _ => ih hsingle ht c
  | dict item ih => exact roundTrips_dict_iff.2 fun e _ => ih hsingle ht e.2
  | _ => exact roundTrips_of_isScalar rfl x

/-- What is read can be stored, and what is then stored reads the same, also where it is something
else: a null that is there is stored as absence, and reads as null again. -/
theorem exists_ofValue_toValue (hsingle : t.hasSingle = false) (x : t.Content) :
    ∃ y, t.ofValue (t.toValue x) = .ok y ∧ t.toValue y = t.toValue x := by
  induction t with
  | single => cases hsingle
  | optional item ih =>
    cases x with
    | none => exact ⟨none, roundTrips_none, rfl⟩
    | some c =>
      change ∃ y, ofValue (.optional item) (item.toValue c) = .ok y ∧
        toValue (.optional item) y = item.toValue c
      cases hnull : (item.toValue c).isNull with
      | true =>
        refine ⟨none, ofValue_optional_of_isNull hnull, ?_⟩
        cases hvalue : item.toValue c with
        | null => rfl
        | _ =>
          rw [hvalue] at hnull
          cases hnull
      | false =>
        obtain ⟨y, hy, hback⟩ := ih hsingle c
        exact ⟨some y, ofValue_optional_eq_some_iff.2 ⟨hnull, hy⟩, hback⟩
  | list item ih =>
    have hitems : ∀ v ∈ List.map item.toValue x,
        ∃ y, item.ofValue v = .ok y ∧ item.toValue y = v := by
      intro v hv
      obtain ⟨c, -, rfl⟩ := List.mem_map.1 hv
      exact ih hsingle c
    obtain ⟨ys, hys, hback⟩ := exists_mapM_eq_ok_of_section hitems
    exact ⟨ys, hys, congrArg Value.list hback⟩
  | dict item ih =>
    have hentries : ∀ e ∈ List.map (fun e => (e.1, item.toValue e.2)) x, ∃ y,
        ((item.ofValue e.2).map fun c => (e.1, c)) = .ok y ∧ (y.1, item.toValue y.2) = e := by
      intro e he
      obtain ⟨⟨key, c⟩, -, rfl⟩ := List.mem_map.1 he
      obtain ⟨y, hy, hback⟩ := ih hsingle c
      exact ⟨(key, y), by rw [hy]; rfl, by rw [hback]⟩
    obtain ⟨ys, hys, hback⟩ := exists_mapM_eq_ok_of_section hentries
    exact ⟨ys, hys, congrArg Value.map hback⟩
  | _ => exact ⟨x, roundTrips_of_isScalar rfl x, rfl⟩

/-- Where some optional is one of what may be null, something there that is null reads back as
absent. -/
theorem exists_not_roundTrips (ht : t.isUnambiguous = false) : ∃ x, ¬ t.RoundTrips x := by
  induction t with
  | optional item ih =>
    cases hnull : item.mayBeNull with
    | true =>
      obtain ⟨c, hc⟩ := exists_isNull_toValue hnull
      refine ⟨some c, fun h => ?_⟩
      rw [(roundTrips_some_iff.1 h).1] at hc
      cases hc
    | false =>
      obtain ⟨c, hc⟩ := ih (by simpa [isUnambiguous, hnull] using ht)
      exact ⟨some c, fun h => hc (roundTrips_some_iff.1 h).2⟩
  | list item ih =>
    obtain ⟨c, hc⟩ := ih ht
    exact ⟨[c], fun h => hc (roundTrips_list_iff.1 h c (List.mem_singleton_self c))⟩
  | dict item ih =>
    obtain ⟨c, hc⟩ := ih ht
    exact ⟨[("", c)], fun h => hc (roundTrips_dict_iff.1 h _ (List.mem_singleton_self ("", c)))⟩
  | _ => cases ht

/-- **Contents that read back as themselves**: of a type without numbers of single precision, what
was stored for a value is stored again for what it reads as; and everything is exactly when no
optional is one of an optional or of any value. -/
theorem ofValue_toValue (ht : t.hasSingle = false) :
    (∀ v x, t.ofValue v = .ok x → t.ofValue (t.toValue x) = .ok x) ∧
      ((∀ x, t.ofValue (t.toValue x) = .ok x) ↔ t.isUnambiguous = true) := by
  refine ⟨fun v x h => roundTrips_of_ofValue ht h, ?_, roundTrips_of_isUnambiguous ht⟩
  intro hall
  by_contra hambiguous
  obtain ⟨x, hx⟩ := exists_not_roundTrips (Bool.eq_false_iff.2 hambiguous)
  exact hx (hall x)

/-- Readings of a gauge by day, on some days none. -/
def readings : FieldType := .dict (.optional (.list (.int .w8)))

/-- Readings are stored as they were, and so are those that are read from other forms. -/
theorem ofValue_toValue_readings :
    readings.hasSingle = false ∧ readings.isUnambiguous = true ∧
      (∃ x, readings.ofValue (.map [("monday", .null), ("tuesday", .list [.uint 7])]) = .ok x ∧
        readings.ofValue (readings.toValue x) = .ok x) ∧
      ∀ x, readings.ofValue (readings.toValue x) = .ok x := by
  have hstored : ∃ x,
      readings.ofValue (.map [("monday", .null), ("tuesday", .list [.uint 7])]) = .ok x :=
    ⟨_, rfl⟩
  obtain ⟨x, hx⟩ := hstored
  exact ⟨rfl, rfl, ⟨x, hx, (ofValue_toValue rfl).1 _ x hx⟩, (ofValue_toValue rfl).2.2 rfl⟩

end FieldRules.FieldType
