import FieldRules.Proofs.Number.Rounding
import Mathlib.Data.EReal.Basic

/-!
# Extended real numbers

What is not "not a number" denotes an extended real number: the rational number of finite bits, or one
of the infinities.  The units of a number of the format tell where it lies, the infinities included,
and so do the units of an integer of sixty-four bits, which lie strictly between those of the
infinities.  Comparing an integer with a number of the format after rounding the integer finds how
they lie, unless the integer is rounded to that very number and is another one.

## Main definitions

* `Binary64.toEReal?` — the extended real number that bits denote.
* `Binary64.Blurs` — an integer becomes a number of the format that it is not.

## Main statements

* `Binary64.HasUnits.compares` — the order of numbers is that of their units.
* `Binary64.compares_ofInt_iff` — when rounding keeps how an integer compares.
-/

namespace FieldRules.Number.Binary64

variable {x y : Binary64} {p q : EReal} {u v n : Int}

/-- The extended real number that bits denote. -/
noncomputable def toEReal? (x : Binary64) : Option EReal :=
  match x.toRat? with
  | some r => some ((r : ℝ) : EReal)
  | none => if x.isInfinite then some (if x.isNegative then ⊥ else ⊤) else none

/-- An integer is rounded to a number of the format that it is not. -/
def Blurs (x : Binary64) (n : Int) : Prop :=
  ∃ r : ℚ, (ofInt n).toRat? = some r ∧ x.toRat? = some r ∧ r ≠ n

/-! ## Units -/

/-- The units of the infinities. -/
def infinityUnits : Nat := (infinity false).absUnits

/-- An extended real number has so many units: those of the infinities are the outermost ones. -/
def HasUnits (p : EReal) (u : Int) : Prop :=
  (p = ⊥ ∧ u = -infinityUnits) ∨ (p = ⊤ ∧ u = infinityUnits) ∨
    (p = ((u / pow2 1074 : ℚ) : ℝ) ∧ -(infinityUnits : Int) < u ∧ u < infinityUnits)

theorem magnitude_infinity : (infinity false).magnitude = infinityMagnitude :=
  magnitude_ofMagnitude false infinityMagnitude_lt

theorem isFinite_iff : x.isFinite = true ↔ x.absUnits < infinityUnits := by
  rw [infinityUnits, absUnits_lt_iff, magnitude_infinity, isFinite, decide_eq_true_eq]

theorem absUnits_of_isInfinite (h : x.isInfinite = true) : x.absUnits = infinityUnits := by
  have hmagnitude : x.magnitude = (infinity false).magnitude := by
    rw [magnitude_infinity]
    exact eq_of_beq h
  exact le_antisymm (absUnits_le_iff.2 hmagnitude.le) (absUnits_le_iff.2 hmagnitude.ge)

theorem toRat?_eq_some_iff {r : ℚ} :
    x.toRat? = some r ↔ x.isFinite = true ∧ (x.units / pow2 1074 : ℚ) = r := by
  by_cases h : x.isFinite = true
  · rw [toRat?, if_pos h, Option.some_inj, and_iff_right h]
  · rw [toRat?, if_neg h]
    exact iff_of_false (Option.some_ne_none r).symm fun hr => h hr.1

theorem hasUnits_of_isFinite (h : x.isFinite = true) :
    HasUnits (((x.units / pow2 1074 : ℚ) : ℝ) : EReal) x.units := by
  have hbound := isFinite_iff.1 h
  rw [← natAbs_units] at hbound
  exact .inr (.inr ⟨rfl, by omega, by omega⟩)

/-- The units of what bits denote. -/
theorem hasUnits_of_toEReal? (h : x.toEReal? = some p) : HasUnits p x.units := by
  rw [toEReal?] at h
  split at h
  · next r hr =>
    obtain ⟨hfinite, rfl⟩ := toRat?_eq_some_iff.1 hr
    cases h
    exact hasUnits_of_isFinite hfinite
  · split at h
    · next hinfinite =>
      rw [units, absUnits_of_isInfinite hinfinite]
      cases h
      split
      · exact .inl ⟨rfl, rfl⟩
      · exact .inr (.inl ⟨rfl, rfl⟩)
    · cases h

/-- The units of an integer of sixty-four bits. -/
theorem hasUnits_intCast (hn : n.natAbs ≤ 18446744073709551616) :
    HasUnits ((n : ℝ) : EReal) (n * pow2 1074) := by
  have hgreatest : 18446744073709551616 * pow2 1074 < infinityUnits := by
    rw [← absUnits_two_pow, infinityUnits, absUnits_lt_iff, magnitude_infinity]
    exact magnitude_two_pow_lt
  have hbound : (n * pow2 1074).natAbs < infinityUnits := by
    rw [Int.natAbs_mul, Int.natAbs_natCast]
    exact (Nat.mul_le_mul_right _ hn).trans_lt hgreatest
  have hcast : (((n * pow2 1074 : Int) / pow2 1074 : ℚ) : ℝ) = n := by
    rw [Int.cast_mul, Int.cast_natCast, mul_div_cancel_right₀ _ (Nat.cast_ne_zero.2 (pow2_pos _).ne')]
    exact Rat.cast_intCast n
  rw [← hcast]
  generalize n * pow2 1074 = u at *
  exact .inr (.inr ⟨rfl, by omega, by omega⟩)

/-- Fewer units make a smaller number. -/
theorem HasUnits.lt (hp : HasUnits p u) (hq : HasUnits q v) (h : u < v) : p < q := by
  have hpos : (0 : ℚ) < pow2 1074 := Nat.cast_pos.2 (pow2_pos 1074)
  rcases hp with ⟨rfl, hu⟩ | ⟨rfl, hu⟩ | ⟨rfl, hlow, hhigh⟩ <;>
    rcases hq with ⟨rfl, hv⟩ | ⟨rfl, hv⟩ | ⟨rfl, hlow', hhigh'⟩
  case inr.inr.inr.inr =>
    have hratio : (u / pow2 1074 : ℚ) < v / pow2 1074 :=
      div_lt_div_of_pos_right (Int.cast_lt.2 h) hpos
    exact EReal.coe_lt_coe_iff.2 (Rat.cast_lt.2 hratio)
  case inl.inr.inl => exact bot_lt_top
  case inl.inr.inr => exact EReal.bot_lt_coe _
  case inr.inr.inr.inl => exact EReal.coe_lt_top _
  all_goals omega

theorem HasUnits.eq (hp : HasUnits p u) (hq : HasUnits q u) : p = q := by
  have hpos : 0 < infinityUnits := (isFinite_iff (x := zero false)).1 (by decide) |>.pos
  rcases hp with ⟨rfl, hu⟩ | ⟨rfl, hu⟩ | ⟨rfl, hlow, hhigh⟩ <;>
    rcases hq with ⟨rfl, hv⟩ | ⟨rfl, hv⟩ | ⟨rfl, hlow', hhigh'⟩ <;> first | rfl | omega

/-- **Numbers compare as their units do.** -/
theorem HasUnits.compares (hp : HasUnits p u) (hq : HasUnits q v) : (compare u v).Compares p q := by
  rcases lt_trichotomy u v with hlt | rfl | hgt
  · rw [compare_lt_iff_lt.2 hlt]
    exact hp.lt hq hlt
  · rw [compare_eq_iff_eq.2 rfl]
    exact hp.eq hq
  · rw [compare_gt_iff_gt.2 hgt]
    exact hq.lt hp hgt

/-! ## Rounded integers -/

theorem isNaN_of_toEReal? (h : x.toEReal? = some p) : x.isNaN = false := by
  have hbound : x.absUnits ≤ infinityUnits := by
    rw [← natAbs_units]
    rcases hasUnits_of_toEReal? h with ⟨-, hu⟩ | ⟨-, hu⟩ | ⟨-, hlow, hhigh⟩ <;> omega
  rw [infinityUnits, absUnits_le_iff, magnitude_infinity] at hbound
  simpa [isNaN] using hbound

theorem isNaN_of_toEReal?_none (h : x.toEReal? = none) : x.isNaN = true := by
  rw [toEReal?] at h
  split at h
  · cases h
  · next hnone =>
    split at h
    · cases h
    · next hinfinite =>
      have hfinite : ¬ x.isFinite = true := by
        intro hfinite
        rw [toRat?, if_pos hfinite] at hnone
        cases hnone
      rw [isFinite, decide_eq_true_eq] at hfinite
      rw [isInfinite, beq_iff_eq] at hinfinite
      exact decide_eq_true (by omega)

theorem isNaN_of_isFinite (h : x.isFinite = true) : x.isNaN = false := by
  simp only [isFinite, decide_eq_true_eq] at h
  simpa [isNaN] using h.le

/-- An integer of sixty-four bits is blurred where rounding gives it the units of the number, which
it did not have before. -/
theorem blurs_iff (hn : n.natAbs ≤ 18446744073709551616) :
    x.Blurs n ↔ (ofInt n).units = x.units ∧ n * pow2 1074 ≠ x.units := by
  have hne : (pow2 1074 : ℚ) ≠ 0 := Nat.cast_ne_zero.2 (pow2_pos 1074).ne'
  constructor
  · rintro ⟨r, hround, hr, hother⟩
    obtain ⟨-, hround⟩ := toRat?_eq_some_iff.1 hround
    obtain ⟨-, hr⟩ := toRat?_eq_some_iff.1 hr
    have hunits : ((ofInt n).units : ℚ) = x.units := (div_left_inj' hne).1 (hround.trans hr.symm)
    refine ⟨Int.cast_inj.1 hunits, fun hsame => hother ?_⟩
    rw [← hr, div_eq_intCast_iff (pow2_pos 1074), hsame]
  · rintro ⟨hunits, hother⟩
    have hfinite := isFinite_ofInt hn
    have hx : x.isFinite = true := by
      rwa [isFinite_iff, ← natAbs_units, ← hunits, natAbs_units, ← isFinite_iff]
    refine ⟨_, toRat?_eq_some_iff.2 ⟨hfinite, rfl⟩, toRat?_eq_some_iff.2 ⟨hx, by rw [hunits]⟩, ?_⟩
    rw [hunits, Ne, div_eq_intCast_iff (pow2_pos 1074)]
    exact hother.symm

/-- What stays on its side of a number compares as before, unless it has come to be that number. -/
theorem compare_eq_compare_iff {rounded c u : Int} (hbelow : c ≤ u → rounded ≤ u)
    (habove : u ≤ c → u ≤ rounded) :
    compare rounded u = compare c u ↔ ¬ (rounded = u ∧ c ≠ u) := by
  rcases lt_trichotomy c u with hlt | rfl | hgt
  · rw [compare_lt_iff_lt.2 hlt, compare_lt_iff_lt]
    have := hbelow hlt.le
    omega
  · rw [compare_eq_iff_eq.2 rfl, compare_eq_iff_eq]
    have := hbelow le_rfl
    have := habove le_rfl
    omega
  · rw [compare_gt_iff_gt.2 hgt, compare_gt_iff_gt]
    have := habove hgt.le
    omega

/-- **Rounding keeps how an integer compares** with a number of the format, unless it blurs it. -/
theorem compares_ofInt_iff (hx : x.toEReal? = some p) (hn : n.natAbs ≤ 18446744073709551616) :
    (compare (ofInt n).units x.units).Compares ((n : ℝ) : EReal) p ↔ ¬ x.Blurs n := by
  have hexact := (hasUnits_intCast hn).compares (hasUnits_of_toEReal? hx)
  obtain ⟨habove, hbelow⟩ := units_ofInt (isNaN_of_toEReal? hx) n
  rw [blurs_iff hn, ← compare_eq_compare_iff hbelow habove]
  exact ⟨fun h => h.inj hexact, fun h => h ▸ hexact⟩

end FieldRules.Number.Binary64
