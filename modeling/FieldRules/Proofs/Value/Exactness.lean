import FieldRules.Proofs.Number.Rounding
import FieldRules.Value.Coercion

/-!
# Which conversions keep a number

A number of any width denotes a rational number, and a conversion to another width should keep it or
fail.  An integer is converted to the nearest floating number, which is another number where no
floating number is that integer.  The ends of the integer ranges are tested as floating numbers, and
so the least floating number above each range passes the test and becomes the range's greatest.  All
other conversions keep the number or fail.

## Main definitions

* `Value.toRat?` — the rational number that a value denotes.
* `Value.IsAltered` — the conversions that answer another number.

## Main statements

* `Value.coerce_exact_iff` — a conversion keeps the number exactly when it is none of these.
-/

namespace FieldRules

open Number (Binary64)

namespace Value

/-- The rational number that a number of any width denotes; none for what is no finite number. -/
def toRat? : Value → Option ℚ
  | .int i => some i.toInt
  | .uint u => some u.toNat
  | .float x => x.toRat?
  | _ => none

/-- The conversions that answer another number than they are given. -/
def IsAltered : Value → Kind → Prop
  | .int i, .float => ∀ x : Binary64, x.toRat? ≠ some (i.toInt : ℚ)
  | .uint u, .float => ∀ x : Binary64, x.toRat? ≠ some (u.toNat : ℚ)
  | .float x, .int => x.toRat? = some (2 ^ 63)
  | .float x, .uint => x.toRat? = some (2 ^ 64)
  | _, _ => False

variable {kind : Kind} {q : ℚ}

/-- The nearest floating number is the integer itself exactly when some floating number is. -/
theorem toRat?_ofInt_iff {i : Int} :
    (Binary64.ofInt i).toRat? = some (i : ℚ) ↔ ¬ ∀ x : Binary64, x.toRat? ≠ some (i : ℚ) := by
  rw [not_forall_not]
  exact ⟨fun h => ⟨_, h⟩, fun ⟨x, hx⟩ => Binary64.toRat?_ofInt hx⟩

theorem coerceInt_exact_iff (i : Int64) (hkind : kind = .int ∨ kind = .uint ∨ kind = .float) :
    (∀ w, coerceInt i kind = .ok w → w.toRat? = some (i.toInt : ℚ)) ↔
      ¬ (Value.int i).IsAltered kind := by
  rcases hkind with rfl | rfl | rfl
  · simp [coerceInt, toRat?, IsAltered]
  · have hfits : i.toInt < 2 ^ 63 := i.toInt_lt
    simp only [coerceInt, IsAltered, not_false_eq_true, iff_true]
    intro w hw
    by_cases hsign : 0 ≤ i.toInt
    · rw [if_pos hsign] at hw
      cases hw
      have hword : (UInt64.ofNat i.toInt.toNat).toNat = i.toInt.toNat := by
        rw [UInt64.toNat_ofNat']
        omega
      have hcast : ((i.toInt.toNat : Int) : ℚ) = i.toInt := by rw [Int.toNat_of_nonneg hsign]
      rw [toRat?, hword, ← hcast, Int.cast_natCast]
    · rw [if_neg hsign] at hw
      cases hw
  · simp only [coerceInt, IsAltered, Except.ok.injEq, forall_eq', toRat?]
    exact toRat?_ofInt_iff

theorem coerceUint_exact_iff (u : UInt64) (hkind : kind = .int ∨ kind = .uint ∨ kind = .float) :
    (∀ w, coerceUint u kind = .ok w → w.toRat? = some (u.toNat : ℚ)) ↔
      ¬ (Value.uint u).IsAltered kind := by
  rcases hkind with rfl | rfl | rfl
  · simp only [coerceUint, IsAltered, not_false_eq_true, iff_true]
    intro w hw
    by_cases hfits : u.toNat < 9223372036854775808
    · rw [if_pos hfits] at hw
      cases hw
      have hword : (Int64.ofNat u.toNat).toInt = u.toNat := Int64.toInt_ofNat_of_lt hfits
      rw [toRat?, hword, Int.cast_natCast]
    · rw [if_neg hfits] at hw
      cases hw
  · simp [coerceUint, toRat?, IsAltered]
  · have hcast : (u.toNat : ℚ) = ((u.toNat : Int) : ℚ) := (Int.cast_natCast _).symm
    simp only [coerceUint, IsAltered, Except.ok.injEq, forall_eq', toRat?, hcast,
      ← Binary64.ofInt_natCast]
    exact toRat?_ofInt_iff

/-- The powers of two among the floating numbers. -/
theorem toRat?_eq_two_pow_iff {x : Binary64} {k : Nat} :
    x.toRat? = some (2 ^ k) ↔ x.isWhole = true ∧ x.truncate = 2 ^ k := by
  have hcast : (2 ^ k : ℚ) = ((2 ^ k : Int) : ℚ) := by norm_cast
  rw [hcast, Binary64.toRat?_eq_intCast_iff]

theorem coerceFloat_int_exact_iff {x : Binary64} (hq : x.toRat? = some q) :
    (∀ w, coerceFloat x .int = .ok w → w.toRat? = some q) ↔ ¬ (Value.float x).IsAltered .int := by
  change _ ↔ ¬ x.toRat? = some (2 ^ 63)
  rw [toRat?_eq_two_pow_iff]
  by_cases hwhole : x.isWhole = true
  · have hx : some (x.truncate : ℚ) = some q := (Binary64.toRat?_of_isWhole hwhole).symm.trans hq
    by_cases hrange : -9223372036854775808 ≤ x.truncate ∧ x.truncate ≤ 9223372036854775808
    · have hword : (Int64.ofInt (min x.truncate 9223372036854775807)).toInt =
          min x.truncate 9223372036854775807 :=
        Int64.toInt_ofInt_of_le (by omega) (by omega)
      have hmin : min x.truncate 9223372036854775807 = x.truncate ↔ x.truncate ≠ 2 ^ 63 := by omega
      simp only [coerceFloat, hwhole, hrange, if_true, and_self, Except.ok.injEq, forall_eq',
        toRat?, hword, ← hx, Option.some_inj, Int.cast_inj, hmin, true_and, ne_eq]
    · have hbelow : x.truncate ≠ 9223372036854775808 := by omega
      simp [coerceFloat, hwhole, hrange, hbelow]
  · simp [coerceFloat, hwhole]

theorem coerceFloat_uint_exact_iff {x : Binary64} (hq : x.toRat? = some q) :
    (∀ w, coerceFloat x .uint = .ok w → w.toRat? = some q) ↔ ¬ (Value.float x).IsAltered .uint := by
  change _ ↔ ¬ x.toRat? = some (2 ^ 64)
  rw [toRat?_eq_two_pow_iff]
  by_cases hwhole : x.isWhole = true ∧ 0 ≤ x.truncate
  · have hx : some (x.truncate : ℚ) = some q := (Binary64.toRat?_of_isWhole hwhole.1).symm.trans hq
    by_cases hrange : x.truncate.toNat ≤ 18446744073709551616
    · have hword : (UInt64.ofNat (min x.truncate.toNat 18446744073709551615)).toNat =
          min x.truncate.toNat 18446744073709551615 := by
        rw [UInt64.toNat_ofNat']
        omega
      have hmin : ((min x.truncate.toNat 18446744073709551615 : Nat) : Int) = x.truncate ↔
          x.truncate ≠ 2 ^ 64 := by omega
      have hcast : ((min x.truncate.toNat 18446744073709551615 : Nat) : ℚ) = x.truncate ↔
          x.truncate ≠ 2 ^ 64 := by
        rw [← hmin, ← Int.cast_natCast, Int.cast_inj]
      simp only [coerceFloat, hwhole, hrange, if_true, and_self, Except.ok.injEq, forall_eq',
        toRat?, hword, ← hx, Option.some_inj, hcast, true_and, ne_eq]
    · have hbelow : x.truncate ≠ 18446744073709551616 := by omega
      simp [coerceFloat, hwhole, hrange, hbelow]
  · have hother : ¬ (x.isWhole = true ∧ x.truncate = 2 ^ 64) := fun h => hwhole ⟨h.1, by omega⟩
    simp only [coerceFloat, hwhole, if_false, hother, not_false_eq_true, iff_true]
    intro w hw
    cases hw

/-- **A conversion between the widths of numbers keeps the number, or fails, exactly when it is
none of those that are known to alter it.** -/
theorem coerce_exact_iff {v : Value} (hq : v.toRat? = some q)
    (hkind : kind = .int ∨ kind = .uint ∨ kind = .float) (isOptional : Bool) :
    (∀ w, v.coerce kind isOptional = .ok w → w.toRat? = some q) ↔ ¬ v.IsAltered kind := by
  have hany : kind ≠ .any := by rcases hkind with rfl | rfl | rfl <;> decide
  cases v with
  | int i =>
    cases hq
    simpa [coerce, isNull, hany] using coerceInt_exact_iff i hkind
  | uint u =>
    cases hq
    simpa [coerce, isNull, hany] using coerceUint_exact_iff u hkind
  | float x =>
    rcases hkind with rfl | rfl | rfl
    · exact coerceFloat_int_exact_iff hq
    · exact coerceFloat_uint_exact_iff hq
    · simpa [coerce, isNull, coerceFloat, IsAltered] using hq
  | _ => cases hq

/-- The integer `2 ^ 53` is a floating number and is kept. -/
theorem coerce_exact_two_pow :
    (Value.int 9007199254740992).toRat? = some 9007199254740992 ∧
    ∀ w, (Value.int 9007199254740992).coerce .float false = .ok w →
      w.toRat? = some 9007199254740992 := by
  have hint : (Value.int 9007199254740992).toRat? = some 9007199254740992 := by
    have hword : (9007199254740992 : Int64).toInt = 9007199254740992 := by decide
    simp [toRat?, hword]
  refine ⟨hint, (coerce_exact_iff hint (.inr (.inr rfl)) false).2 fun hnone => ?_⟩
  have hkept : Binary64.toRat? ⟨0x4340000000000000⟩ = some ((9007199254740992 : Int) : ℚ) :=
    Binary64.toRat?_of_le_scale (by decide) (by decide)
  exact hnone _ hkept

/-- The integer `2 ^ 53 + 1` is no floating number and becomes `2 ^ 53`; the floating number
`2 ^ 63` is no signed integer and becomes the greatest one. -/
theorem coerce_exact_alters :
    (∃ w, (Value.int 9007199254740993).coerce .float false = .ok w ∧
      w.toRat? ≠ (Value.int 9007199254740993).toRat?) ∧
    ∃ w, (Value.float ⟨0x43e0000000000000⟩).coerce .int false = .ok w ∧
      w.toRat? ≠ (Value.float ⟨0x43e0000000000000⟩).toRat? := by
  constructor
  · refine ⟨.float (Binary64.ofInt 9007199254740993), rfl, fun hsame => ?_⟩
    have hrounded :
        (Binary64.ofInt 9007199254740993).toRat? = some ((9007199254740992 : Int) : ℚ) := by
      rw [Binary64.ofInt_two_pow_succ]
      exact Binary64.toRat?_of_le_scale (by decide) (by decide)
    have hint : (9007199254740993 : Int64).toInt = 9007199254740993 := by decide
    simp [toRat?, hrounded, hint] at hsame
  · have hwhole : Binary64.isWhole ⟨0x43e0000000000000⟩ = true ∧
        Binary64.truncate ⟨0x43e0000000000000⟩ = 9223372036854775808 :=
      Binary64.toRat?_eq_intCast_iff.1 (Binary64.toRat?_of_le_scale (by decide) (by decide))
    refine ⟨.int 9223372036854775807, ?_, fun hsame => ?_⟩
    · simp [coerce, isNull, coerceFloat, hwhole]
    · have hint : (9223372036854775807 : Int64).toInt = 9223372036854775807 := by decide
      simp [toRat?, Binary64.toRat?_eq_intCast_iff.2 hwhole, hint] at hsame

end Value

end FieldRules
