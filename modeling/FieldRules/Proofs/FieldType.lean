import FieldRules.FieldType
import FieldRules.Proofs.Except
import FieldRules.Proofs.Number.Binary64
import FieldRules.Proofs.Value.Coercion

/-!
# Which values a type stores

A value that has the form of a type's kind need not be stored by the type: a kind does not tell how
wide an integer may be, nor what the items of a list are.  Only a type that looks no closer than its
kind stores all of them.

## Main definitions

* `FieldType.storesAll`, `FieldType.storesKind` — the types that store every value, and those that
  store every value of the form of their kind.
* `FieldType.refusedText` — a text that a type of no such sort is given by its kind and refuses.

## Main statements

* `FieldType.ofValue_zero` — every type stores the zero of its kind.
* `FieldType.exists_ofValue_of_isOf` — what types of this sort store.
* `FieldType.exists_refused` — every other type refuses something.
-/

namespace FieldRules.FieldType

open Number (Binary64 pow2 pow2_pos roundDiv roundDiv_mul_right)

/-! ## Zeros -/

/-- Zero has no digits to lose in single precision. -/
theorem toSingle_zero : (Binary64.zero false).toSingle = Binary64.zero false := by
  have hfinite : (Binary64.zero false).isFinite = true := by decide
  have hunits : (Binary64.zero false).absUnits = 0 := by decide
  have hrounded : ∀ n, roundDiv 0 (pow2 n) * pow2 n = 0 := by
    intro n
    have hround : roundDiv (0 * pow2 n) (pow2 n) = 0 := roundDiv_mul_right 0 (pow2_pos n)
    rw [Nat.zero_mul] at hround
    rw [hround, Nat.zero_mul]
  have hmagnitude : Binary64.magnitudeOfRatio 0 (pow2 1074) = (Binary64.zero false).magnitude :=
    Binary64.magnitudeOfRatio_eq hfinite (pow2_pos 1074) (by rw [hunits, Nat.zero_mul])
  have hbelow : ¬pow2 1202 ≤ 0 := Nat.not_le.2 (pow2_pos 1202)
  simp only [Binary64.toSingle, hfinite, hunits, hrounded, hbelow, if_false, Binary64.ofRatio,
    hmagnitude]
  rfl

/-- Every type stores the zero of its kind as its own zero. -/
theorem ofValue_zero (t : FieldType) : t.ofValue (t.kind.zero t.isOptional) = .ok t.zero := by
  cases t with
  | int width => cases width <;> rfl
  | uint width => cases width <;> rfl
  | single => exact congrArg Except.ok toSingle_zero
  | _ => rfl

/-- The zero of a type reads as the zero of its kind. -/
theorem toValue_zero (t : FieldType) : t.toValue t.zero = t.kind.zero t.isOptional := by
  cases t <;> rfl

/-! ## What is stored -/

/-- Whether a type stores every value. -/
def storesAll : FieldType → Bool
  | .any => true
  | .optional item => storesAll item
  | _ => false

/-- Whether a type stores every value that has the form of its kind. -/
def storesKind : FieldType → Bool
  | .bool => true
  | .int width => width == .w64
  | .uint width => width == .w64
  | .single => true
  | .double => true
  | .text => true
  | .any => true
  | .optional item => storesKind item
  | .list item => storesAll item
  | .dict item => storesAll item

/-! ### Optionals -/

theorem ofValue_optional_of_isNull {item : FieldType} {v : Value} (hv : v.isNull = true) :
    ofValue (.optional item) v = .ok none :=
  if_pos hv

theorem ofValue_optional {item : FieldType} {v : Value} (hv : v.isNull = false) :
    ofValue (.optional item) v = (item.ofValue v).map some :=
  if_neg (Bool.eq_false_iff.1 hv)

theorem exists_ofValue_optional {item : FieldType} {v : Value}
    (h : ∃ c, item.ofValue v = .ok c) : ∃ c, ofValue (.optional item) v = .ok c := by
  cases hv : v.isNull with
  | true => exact ⟨none, ofValue_optional_of_isNull hv⟩
  | false =>
    obtain ⟨c, hc⟩ := h
    exact ⟨some c, by rw [ofValue_optional hv, hc]; rfl⟩

/-! ### Types that store what their kind accepts -/

theorem exists_ofValue_of_storesAll {t : FieldType} (ht : t.storesAll = true) (v : Value) :
    ∃ c, t.ofValue v = .ok c := by
  induction t generalizing v with
  | any => exact ⟨v, rfl⟩
  | optional item ih => exact exists_ofValue_optional (ih ht v)
  | _ => cases ht

theorem exists_ofValue_of_isOf {t : FieldType} (ht : t.storesKind = true) {v : Value}
    (hv : v.isOf t.kind = true) : ∃ c, t.ofValue v = .ok c := by
  induction t with
  | any => exact ⟨v, rfl⟩
  | optional item ih => exact exists_ofValue_optional (ih ht hv)
  | list item =>
    cases v <;> cases hv
    next items => exact exists_mapM_eq_ok fun v _ => exists_ofValue_of_storesAll ht v
  | dict item =>
    cases v <;> cases hv
    next entries =>
      refine exists_mapM_eq_ok fun e _ => ?_
      obtain ⟨c, hc⟩ := exists_ofValue_of_storesAll ht e.2
      exact ⟨(e.1, c), by rw [hc]; rfl⟩
  | int width =>
    obtain rfl : width = .w64 := by simpa [storesKind] using ht
    cases v <;> cases hv
    next i =>
      have hfits : -(Width.w64.half : Int) ≤ i.toInt ∧ i.toInt < Width.w64.half :=
        ⟨i.le_toInt, i.toInt_lt⟩
      exact ⟨⟨i, hfits⟩, dif_pos hfits⟩
  | uint width =>
    obtain rfl : width = .w64 := by simpa [storesKind] using ht
    cases v <;> cases hv
    next u =>
      have hfits : u.toNat < 2 * Width.w64.half := u.toNat_lt
      exact ⟨⟨u, hfits⟩, dif_pos hfits⟩
  | bool => cases v <;> cases hv; exact ⟨_, rfl⟩
  | single => cases v <;> cases hv; exact ⟨_, rfl⟩
  | double => cases v <;> cases hv; exact ⟨_, rfl⟩
  | text => cases v <;> cases hv; exact ⟨_, rfl⟩

/-! ## What is refused -/

/-- Whether a type stores lists, as optionals or not. -/
def isList : FieldType → Bool
  | .list _ => true
  | .optional item => isList item
  | _ => false

/-- A value that every type refuses that does not store all values. -/
def refused (t : FieldType) : Value := if t.isList then .bool true else .list []

/-- A text for the kind of a type, which the type refuses unless it stores what has the form of its
kind. -/
def refusedText : FieldType → String
  | .int _ => "4294967296"
  | .uint _ => "4294967296"
  | .optional item => refusedText item
  | .list item => if item.isList then "[true]" else "[[]]"
  | .dict item => if item.isList then "\x7b\"\":true\x7d" else "\x7b\"\":[]\x7d"
  | _ => ""

theorem exists_ofValue_refused {t : FieldType} (ht : t.storesAll = false) :
    ∃ misfit, t.ofValue t.refused = .error misfit := by
  induction t with
  | any => cases ht
  | optional item ih =>
    obtain ⟨misfit, h⟩ := ih ht
    have hnull : item.refused.isNull = false := by
      rw [refused]
      split <;> rfl
    have hsame : (optional item).refused = item.refused := rfl
    exact ⟨misfit, by rw [hsame, ofValue_optional hnull, h]; rfl⟩
  | _ => exact ⟨_, rfl⟩

/-- The text for a list holds the value that its items refuse. -/
theorem coerceText_refusedText_list (item : FieldType) :
    Value.coerceText (list item).refusedText .list = .ok (.list [item.refused]) := by
  rw [refusedText, refused]
  split <;> exact Value.coerceText_of_eq (by decide) (by decide)

/-- The text for a dictionary holds the value that its items refuse. -/
theorem coerceText_refusedText_dict (item : FieldType) :
    Value.coerceText (dict item).refusedText .map = .ok (.map [("", item.refused)]) := by
  rw [refusedText, refused]
  split <;> exact Value.coerceText_of_eq (by decide) (by decide +kernel)

/-- A type that looks closer than its kind refuses the value of a text that its kind accepts. -/
theorem exists_refused {t : FieldType} (ht : t.storesKind = false) :
    ∃ v misfit, Value.coerceText t.refusedText t.kind = .ok v ∧ v.isNull = false ∧
      t.ofValue v = .error misfit := by
  induction t with
  | optional item ih =>
    obtain ⟨v, misfit, hv, hnull, h⟩ := ih ht
    exact ⟨v, misfit, hv, hnull, by rw [ofValue_optional hnull, h]; rfl⟩
  | int width =>
    cases width with
    | w64 => cases ht
    | _ => exact ⟨.int 4294967296, _, Value.coerceText_int (by decide) (by decide), rfl, rfl⟩
  | uint width =>
    cases width with
    | w64 => cases ht
    | _ => exact ⟨.uint 4294967296, _, Value.coerceText_uint (by decide) (by decide), rfl, rfl⟩
  | list item =>
    obtain ⟨misfit, h⟩ := exists_ofValue_refused ht
    have hitems : ofValue (.list item) (.list [item.refused]) =
        [item.refused].mapM item.ofValue := rfl
    refine ⟨.list [item.refused], misfit, coerceText_refusedText_list item, rfl, ?_⟩
    rw [hitems, List.mapM_cons, h]
    rfl
  | dict item =>
    obtain ⟨misfit, h⟩ := exists_ofValue_refused ht
    have hentries : ofValue (.dict item) (.map [("", item.refused)]) =
        [("", item.refused)].mapM fun e => (item.ofValue e.2).map fun c => (e.1, c) := rfl
    refine ⟨.map [("", item.refused)], misfit, coerceText_refusedText_dict item, rfl, ?_⟩
    rw [hentries, List.mapM_cons, h]
    rfl
  | _ => cases ht

end FieldRules.FieldType
