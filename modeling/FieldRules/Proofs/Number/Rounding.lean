import FieldRules.Proofs.Number.Binary64

/-!
# Rounding and order

Words without their sign bit are ordered as the magnitudes that they denote.  Rounding never goes past
a number that the format holds: what lies on one side of such a number is rounded to that number or
stays on its side.  So rounding can lose the order between a number of the format and another number
only by making them equal.

## Main statements

* `Binary64.absUnits_lt_iff` — the order of magnitudes is that of their words.
* `Binary64.le_magnitudeOfRatio`, `Binary64.magnitudeOfRatio_le` — rounding a quotient never goes past
  a magnitude of the format.
* `Binary64.units_ofInt` — the same for integers of either sign.
* `Binary64.ofInt_of_digits` — the number nearest to a natural number, from its own digits.
-/

namespace FieldRules.Number

/-! ## Rounded quotients -/

theorem div_le_roundDiv (num den : Nat) : num / den ≤ roundDiv num den := by
  simp only [roundDiv]
  split <;> omega

theorem roundDiv_le {num den m : Nat} (hden : 0 < den) (h : num ≤ m * den) :
    roundDiv num den ≤ m := by
  rcases Nat.lt_or_ge (num / den) m with hlt | hge
  · simp only [roundDiv]
    split <;> omega
  · -- only a whole multiple has such a great quotient
    have hnum : num = m * den := le_antisymm h ((Nat.le_div_iff_mul_le hden).1 hge)
    rw [hnum, roundDiv_mul_right m hden]

/-- A quotient is rounded alike in smaller units. -/
theorem roundDiv_mul_mul_right (num den : Nat) {c : Nat} (hc : 0 < c) :
    roundDiv (num * c) (den * c) = roundDiv num den := by
  have htwice : 2 * (num % den * c) = 2 * (num % den) * c := (Nat.mul_assoc 2 _ c).symm
  simp only [roundDiv, Nat.mul_div_mul_right _ _ hc, Nat.mul_mod_mul_right, htwice,
    Nat.mul_lt_mul_right hc, Nat.mul_right_cancel_iff hc, beq_eq_decide]

namespace Binary64

variable {x y : Binary64} {num den : Nat}

/-! ## The order of words -/

/-- A number of a lower scale is smaller than every number of a higher one. -/
theorem absUnits_lt_of_scale_lt (h : x.scale < y.scale) : x.absUnits < y.absUnits := by
  have hfull : pow2 52 ≤ y.significand := y.le_significand.resolve_right (by omega)
  calc x.absUnits = x.significand * pow2 x.scale := x.absUnits_eq
    _ < pow2 53 * pow2 x.scale := Nat.mul_lt_mul_of_pos_right x.significand_lt (pow2_pos _)
    _ = pow2 52 * pow2 (x.scale + 1) := by rw [← pow2_add, ← pow2_add]; congr 1; omega
    _ ≤ y.significand * pow2 y.scale := Nat.mul_le_mul hfull (Nat.pow_le_pow_right (by omega) h)
    _ = y.absUnits := y.absUnits_eq.symm

theorem magnitude_lt_of_scale_lt (h : x.scale < y.scale) : x.magnitude < y.magnitude := by
  have hfull : pow2 52 ≤ y.significand := y.le_significand.resolve_right (by omega)
  have hshort := x.significand_lt
  rw [x.magnitude_eq, y.magnitude_eq]
  simp only [pow2_eq] at *
  omega

/-- **The order of magnitudes is that of their words.** -/
theorem absUnits_lt_iff : x.absUnits < y.absUnits ↔ x.magnitude < y.magnitude := by
  rcases Nat.lt_trichotomy x.scale y.scale with hlt | heq | hgt
  · exact iff_of_true (absUnits_lt_of_scale_lt hlt) (magnitude_lt_of_scale_lt hlt)
  · rw [x.absUnits_eq, y.absUnits_eq, x.magnitude_eq, y.magnitude_eq, heq,
      Nat.mul_lt_mul_right (pow2_pos y.scale), Nat.add_lt_add_iff_left]
  · exact iff_of_false (absUnits_lt_of_scale_lt hgt).not_gt (magnitude_lt_of_scale_lt hgt).not_gt

theorem absUnits_le_iff : x.absUnits ≤ y.absUnits ↔ x.magnitude ≤ y.magnitude := by
  rw [← Nat.not_lt, ← Nat.not_lt, absUnits_lt_iff]

/-! ## Rounding a quotient -/

/-- By how many places a number of units is shifted until it has at most fifty-three digits. -/
theorem lt_pow2_shift (q : Nat) : q < pow2 (bitLength q - 53 + 53) := by
  have hlength : q < pow2 (bitLength q) := by
    rw [bitLength]
    split
    · next hq => rw [hq]; exact pow2_pos 0
    · exact Nat.lt_log2_self
  exact hlength.trans_le (Nat.pow_le_pow_right (by omega) (by omega))

/-- A number that is shifted has no fewer digits. -/
theorem pow2_shift_le {q : Nat} (h : bitLength q - 53 ≠ 0) : pow2 (bitLength q - 53 + 52) ≤ q := by
  have hq : q ≠ 0 := by
    rintro rfl
    exact h rfl
  have hlength : bitLength q - 53 + 52 = q.log2 := by
    rw [bitLength, if_neg hq] at h ⊢
    omega
  rw [hlength]
  exact Nat.log2_self_le hq

/-- **Rounding never goes below** a magnitude of the format that the quotient has reached. -/
theorem le_magnitudeOfRatio (hx : x.magnitude ≤ infinityMagnitude) (hden : 0 < den)
    (h : x.absUnits * den ≤ num * pow2 1074) : x.magnitude ≤ magnitudeOfRatio num den := by
  simp only [magnitudeOfRatio]
  generalize num * pow2 1074 = scaled at *
  generalize hshift : bitLength (scaled / den) - 53 = shift
  have hq : x.significand * pow2 x.scale ≤ scaled / den := by
    rw [← x.absUnits_eq]
    exact (Nat.le_div_iff_mul_le hden).2 h
  have hround : scaled / den / pow2 shift ≤ roundDiv scaled (den * pow2 shift) := by
    rw [Nat.div_div_eq_div_mul]
    exact div_le_roundDiv _ _
  refine le_min ?_ hx
  rw [x.magnitude_eq]
  rcases Nat.lt_trichotomy x.scale shift with hlt | heq | hgt
  · have hdigits : pow2 52 ≤ scaled / den / pow2 shift := by
      rw [Nat.le_div_iff_mul_le (pow2_pos shift), ← pow2_add, Nat.add_comm, ← hshift]
      exact pow2_shift_le (by omega)
    have hshort := x.significand_lt
    simp only [pow2_eq] at *
    omega
  · have hdigits : x.significand ≤ scaled / den / pow2 shift := by
      rwa [Nat.le_div_iff_mul_le (pow2_pos shift), ← heq]
    rw [heq]
    omega
  · -- the quotient would have too many digits for its shift
    have hfull : pow2 52 ≤ x.significand := x.le_significand.resolve_right (by omega)
    have hlong : pow2 (shift + 53) ≤ scaled / den := by
      calc pow2 (shift + 53) ≤ pow2 (52 + x.scale) := Nat.pow_le_pow_right (by omega) (by omega)
        _ = pow2 52 * pow2 x.scale := pow2_add 52 x.scale
        _ ≤ x.significand * pow2 x.scale := Nat.mul_le_mul_right _ hfull
        _ ≤ scaled / den := hq
    exact absurd (hshift ▸ lt_pow2_shift (scaled / den)) hlong.not_gt

/-- **Rounding never goes above** a magnitude of the format that the quotient has not passed. -/
theorem magnitudeOfRatio_le (hden : 0 < den) (h : num * pow2 1074 ≤ x.absUnits * den) :
    magnitudeOfRatio num den ≤ x.magnitude := by
  simp only [magnitudeOfRatio]
  generalize num * pow2 1074 = scaled at *
  generalize hshift : bitLength (scaled / den) - 53 = shift
  have hunit : 0 < den * pow2 shift := Nat.mul_pos hden (pow2_pos shift)
  refine (min_le_left _ _).trans ?_
  rw [x.magnitude_eq]
  rcases Nat.lt_trichotomy shift x.scale with hlt | heq | hgt
  · have hfull : pow2 52 ≤ x.significand := x.le_significand.resolve_right (by omega)
    have hbelow : scaled ≤ pow2 53 * (den * pow2 shift) := by
      have hq := lt_pow2_shift (scaled / den)
      rw [hshift, Nat.div_lt_iff_lt_mul hden, pow2_add] at hq
      calc scaled ≤ pow2 shift * pow2 53 * den := hq.le
        _ = pow2 53 * (den * pow2 shift) := by ring
    have hround := roundDiv_le hunit hbelow
    simp only [pow2_eq] at *
    omega
  · have hround : roundDiv scaled (den * pow2 shift) ≤ x.significand := by
      refine roundDiv_le hunit ?_
      calc scaled ≤ x.significand * pow2 x.scale * den := by rwa [← x.absUnits_eq]
        _ = x.significand * (den * pow2 shift) := by rw [heq]; ring
    rw [← heq]
    omega
  · -- the quotient would have too few digits for its shift
    have hlong := pow2_shift_le (q := scaled / den) (by omega)
    have hq : scaled / den ≤ x.absUnits := Nat.div_le_of_le_mul (h.trans_eq (Nat.mul_comm _ _))
    have hshort : x.absUnits < pow2 (53 + x.scale) := by
      rw [x.absUnits_eq, pow2_add]
      exact Nat.mul_lt_mul_of_pos_right x.significand_lt (pow2_pos _)
    rw [hshift] at hlong
    have hpowers := (Nat.pow_lt_pow_iff_right (by omega)).1 ((hlong.trans hq).trans_lt hshort)
    omega

/-! ## Rounding an integer -/

section Integer

variable {n : Int}

theorem infinityMagnitude_lt : infinityMagnitude < pow2 63 := by decide

theorem magnitude_ofInt (n : Int) : (ofInt n).magnitude = magnitudeOfRatio n.natAbs 1 :=
  magnitude_ofMagnitude _ ((min_le_right _ _).trans_lt infinityMagnitude_lt)

theorem isNegative_ofInt (n : Int) : (ofInt n).isNegative = decide (n < 0) :=
  isNegative_ofMagnitude _ ((min_le_right _ _).trans_lt infinityMagnitude_lt)

theorem le_absUnits_ofInt (hx : x.isNaN = false) (h : x.absUnits ≤ n.natAbs * pow2 1074) :
    x.absUnits ≤ (ofInt n).absUnits := by
  have hmagnitude : x.magnitude ≤ infinityMagnitude := by simpa [isNaN] using hx
  rw [absUnits_le_iff, magnitude_ofInt]
  exact le_magnitudeOfRatio hmagnitude Nat.one_pos (by rwa [Nat.mul_one])

theorem absUnits_ofInt_le (h : n.natAbs * pow2 1074 ≤ x.absUnits) :
    (ofInt n).absUnits ≤ x.absUnits := by
  rw [absUnits_le_iff, magnitude_ofInt]
  exact magnitudeOfRatio_le Nat.one_pos (by rwa [Nat.mul_one])

/-- The units of an integer, from its sign and its absolute value. -/
theorem intUnits_eq (n : Int) :
    n * pow2 1074 =
      if n < 0 then -((n.natAbs * pow2 1074 : Nat) : Int) else (n.natAbs * pow2 1074 : Nat) := by
  rw [Nat.cast_mul]
  split
  · next hn => rw [Int.ofNat_natAbs_of_nonpos hn.le, Int.neg_mul, Int.neg_neg]
  · next hn => rw [Int.natAbs_of_nonneg (not_lt.1 hn)]

theorem intUnits_pos (hn : n < 0) : 0 < n.natAbs * pow2 1074 :=
  Nat.mul_pos (Int.natAbs_pos.2 hn.ne) (pow2_pos 1074)

/-- **Rounding an integer never goes past** a number of the format: it stays on the side of the number
that the integer is on. -/
theorem units_ofInt (hx : x.isNaN = false) (n : Int) :
    (x.units ≤ n * pow2 1074 → x.units ≤ (ofInt n).units) ∧
      (n * pow2 1074 ≤ x.units → (ofInt n).units ≤ x.units) := by
  have hbelow := le_absUnits_ofInt (n := n) hx
  have habove := absUnits_ofInt_le (x := x) (n := n)
  have hpos := intUnits_pos (n := n)
  rw [intUnits_eq, units, units, isNegative_ofInt]
  generalize n.natAbs * pow2 1074 = k at *
  by_cases hn : n < 0 <;> by_cases hsign : x.isNegative = true <;> simp [hn, hsign] <;> omega

/-- The units of the number `2 ^ 64`. -/
theorem absUnits_two_pow :
    absUnits ⟨0x43f0000000000000⟩ = 18446744073709551616 * pow2 1074 := by
  have hscale : 1074 ≤ scale ⟨0x43f0000000000000⟩ := by decide
  have hshifted : significand ⟨0x43f0000000000000⟩ * pow2 (scale ⟨0x43f0000000000000⟩ - 1074) =
      18446744073709551616 := by decide
  rw [absUnits_of_le_scale hscale, hshifted]

theorem magnitude_two_pow_lt : magnitude ⟨0x43f0000000000000⟩ < infinityMagnitude := by decide

/-- The integers of sixty-four bits are rounded to finite numbers. -/
theorem isFinite_ofInt (hn : n.natAbs ≤ 18446744073709551616) : (ofInt n).isFinite = true := by
  have hle : (ofInt n).absUnits ≤ absUnits ⟨0x43f0000000000000⟩ :=
    absUnits_ofInt_le ((Nat.mul_le_mul_right _ hn).trans_eq absUnits_two_pow.symm)
  exact decide_eq_true ((absUnits_le_iff.1 hle).trans_lt magnitude_two_pow_lt)

/-- A natural number has fifty-three binary digits and `k` more; only these are rounded away. -/
theorem ofInt_of_digits {m k : Nat} (hlow : pow2 (k + 52) ≤ m) (hhigh : m < pow2 (k + 53)) :
    ofInt m = ofMagnitude false
      (min ((k + 1074) * pow2 52 + roundDiv m (pow2 k)) infinityMagnitude) := by
  have hleast : pow2 (k + 52 + 1074) ≤ m * pow2 1074 := by
    rw [pow2_add (k + 52)]
    exact Nat.mul_le_mul_right _ hlow
  have hgreatest : m * pow2 1074 < pow2 (k + 52 + 1074 + 1) := by
    rw [show k + 52 + 1074 + 1 = k + 53 + 1074 by omega, pow2_add (k + 53)]
    exact Nat.mul_lt_mul_of_pos_right hhigh (pow2_pos 1074)
  have hshift : bitLength (m * pow2 1074) - 53 = k + 1074 := by
    rw [bitLength_eq hleast hgreatest]
    omega
  rw [ofInt_natCast, ofNat, ofRatio, magnitudeOfRatio]
  simp only [Nat.div_one, Nat.one_mul, hshift]
  rw [pow2_add k, roundDiv_mul_mul_right m _ (pow2_pos 1074)]

/-- The first integer that is no number of the format is rounded to `2 ^ 53`. -/
theorem ofInt_two_pow_succ : ofInt 9007199254740993 = ⟨0x4340000000000000⟩ :=
  (ofInt_of_digits (k := 1) (by decide) (by decide)).trans (by decide)

/-- The greatest integer of sixty-four bits is rounded to `2 ^ 64`. -/
theorem ofInt_greatest : ofInt 18446744073709551615 = ⟨0x43f0000000000000⟩ :=
  (ofInt_of_digits (k := 11) (by decide) (by decide)).trans (by decide)

end Integer

end Binary64

end FieldRules.Number
