import FieldRules.Number.Binary64
import Mathlib.Algebra.Order.Field.Rat
import Mathlib.Tactic.Ring

/-!
# The exact numbers of the format

A finite number of the format denotes a rational number, a whole multiple of `2 ^ (-1074)`.  Its
magnitude word splits into a significand and a scale, and the multiple is the significand shifted
by the scale.  Rounding leaves alone what the format holds: the number nearest to one that the
format holds is that number.

## Main definitions

* `Binary64.toRat?` — the rational number that finite bits denote.
* `Binary64.significand`, `Binary64.scale` — the two parts of a magnitude word.

## Main statements

* `Binary64.magnitudeOfRatio_eq` — rounding fixes what the format holds.
* `Binary64.toRat?_ofInt` — an integer that the format holds is converted to itself.
* `Binary64.toRat?_eq_intCast_iff` — the whole numbers of the format.
* `Binary64.toRat?_of_le_scale` — those that are too great to have a fraction.
-/

namespace FieldRules.Number

theorem pow2_eq (n : Nat) : pow2 n = 2 ^ n := rfl

theorem pow2_pos (n : Nat) : 0 < pow2 n := Nat.two_pow_pos n

theorem pow2_add (m n : Nat) : pow2 (m + n) = pow2 m * pow2 n := Nat.pow_add 2 m n

theorem roundDiv_mul_right (m : Nat) {d : Nat} (hd : 0 < d) : roundDiv (m * d) d = m := by
  simp [roundDiv, Nat.mul_div_cancel m hd, hd.ne]

theorem bitLength_le {n k : Nat} (h : n < pow2 k) : bitLength n ≤ k := by
  rw [bitLength]
  by_cases hn : n = 0
  · simp [hn]
  · rw [if_neg hn]
    exact (Nat.log2_lt hn).2 h

theorem bitLength_eq {n k : Nat} (hlow : pow2 k ≤ n) (hhigh : n < pow2 (k + 1)) :
    bitLength n = k + 1 := by
  have hn : n ≠ 0 := (lt_of_lt_of_le (Nat.two_pow_pos k) hlow).ne'
  rw [bitLength, if_neg hn, (Nat.log2_eq_iff hn).2 ⟨hlow, hhigh⟩]

namespace Binary64

variable {x : Binary64}

/-! ## Significand and scale -/

/-- The digits of a number, as a whole number: fifty-three of them, fewer in the lowest scale. -/
def significand (x : Binary64) : Nat :=
  if x.magnitude / pow2 52 = 0 then x.magnitude % pow2 52 else pow2 52 + x.magnitude % pow2 52

/-- By how many places the digits are shifted, from units of `2 ^ (-1074)`. -/
def scale (x : Binary64) : Nat := x.magnitude / pow2 52 - 1

theorem absUnits_eq (x : Binary64) : x.absUnits = x.significand * pow2 x.scale := by
  by_cases h : x.magnitude / pow2 52 = 0 <;> simp [absUnits, significand, scale, h]

theorem magnitude_eq (x : Binary64) : x.magnitude = x.scale * pow2 52 + x.significand := by
  simp only [significand, scale, pow2_eq]
  split <;> omega

theorem significand_lt (x : Binary64) : x.significand < pow2 53 := by
  simp only [significand, pow2_eq]
  split <;> omega

/-- Only in the lowest scale are there fewer digits than fifty-three. -/
theorem le_significand (x : Binary64) : pow2 52 ≤ x.significand ∨ x.scale = 0 := by
  simp only [significand, scale]
  split <;> omega

/-- The scale is found from the number of binary digits. -/
theorem bitLength_absUnits (x : Binary64) : bitLength x.absUnits - 53 = x.scale := by
  rw [absUnits_eq]
  rcases x.le_significand with hfull | hlowest
  · have hlow : pow2 (52 + x.scale) ≤ x.significand * pow2 x.scale := by
      calc pow2 (52 + x.scale) = pow2 52 * pow2 x.scale := Nat.pow_add 2 52 x.scale
        _ ≤ x.significand * pow2 x.scale := Nat.mul_le_mul_right _ hfull
    have hhigh : x.significand * pow2 x.scale < pow2 (52 + x.scale + 1) := by
      calc x.significand * pow2 x.scale < pow2 53 * pow2 x.scale :=
            Nat.mul_lt_mul_of_pos_right x.significand_lt (pow2_pos _)
        _ = pow2 (53 + x.scale) := (Nat.pow_add 2 53 x.scale).symm
        _ = pow2 (52 + x.scale + 1) := by congr 1; omega
    rw [bitLength_eq hlow hhigh]
    omega
  · have hshort := bitLength_le x.significand_lt
    simp [hlowest, pow2]
    omega

/-! ## Rounding what the format holds -/

/-- **Rounding fixes what the format holds**: where a quotient is the magnitude of a finite number,
its nearest magnitude is that one. -/
theorem magnitudeOfRatio_eq (hfinite : x.isFinite = true) {num den : Nat} (hden : 0 < den)
    (h : num * pow2 1074 = x.absUnits * den) : magnitudeOfRatio num den = x.magnitude := by
  have hscale : bitLength (num * pow2 1074 / den) - 53 = x.scale := by
    rw [h, Nat.mul_div_cancel _ hden, bitLength_absUnits]
  have hround : roundDiv (num * pow2 1074) (den * pow2 x.scale) = x.significand := by
    have hproduct : num * pow2 1074 = x.significand * (den * pow2 x.scale) := by
      rw [h, absUnits_eq]
      ring
    rw [hproduct, roundDiv_mul_right _ (Nat.mul_pos hden (pow2_pos x.scale))]
  have hbelow : x.magnitude < infinityMagnitude := by simpa [isFinite] using hfinite
  simp only [magnitudeOfRatio, hscale, hround, ← magnitude_eq]
  exact Nat.min_eq_left hbelow.le

theorem magnitude_ofMagnitude (negative : Bool) {m : Nat} (hm : m < pow2 63) :
    (ofMagnitude negative m).magnitude = m := by
  simp only [magnitude, ofMagnitude, pow2_eq, UInt64.toNat_ofNat'] at *
  cases negative <;> simp <;> omega

theorem isNegative_ofMagnitude (negative : Bool) {m : Nat} (hm : m < pow2 63) :
    (ofMagnitude negative m).isNegative = negative := by
  simp only [isNegative, ofMagnitude, pow2_eq, UInt64.toNat_ofNat'] at *
  cases negative <;> simp <;> omega

/-! ## Exact numbers -/

/-- The rational number that finite bits denote. -/
def toRat? (x : Binary64) : Option ℚ := if x.isFinite then some (x.units / pow2 1074) else none

theorem natAbs_units (x : Binary64) : x.units.natAbs = x.absUnits := by
  rw [units]
  split <;> simp

theorem div_eq_intCast_iff {k i : Int} {n : Nat} (hn : 0 < n) : (k / n : ℚ) = i ↔ k = i * n := by
  rw [div_eq_iff (Nat.cast_ne_zero.2 hn.ne')]
  norm_cast

/-- The numbers that denote an integer, by their units. -/
theorem toRat?_eq_intCast_iff_units {i : Int} :
    x.toRat? = some (i : ℚ) ↔ x.isFinite = true ∧ x.units = i * pow2 1074 := by
  by_cases hfinite : x.isFinite = true
  · rw [toRat?, if_pos hfinite, Option.some_inj, div_eq_intCast_iff (pow2_pos 1074)]
    exact (and_iff_right hfinite).symm
  · rw [toRat?, if_neg hfinite]
    exact iff_of_false nofun fun h => hfinite h.1

theorem absUnits_of_units {i : Int} (h : x.units = i * pow2 1074) :
    x.absUnits = i.natAbs * pow2 1074 := by
  rw [← natAbs_units, h, Int.natAbs_mul, Int.natAbs_natCast]

/-- An integer that the format holds is converted to itself. -/
theorem toRat?_ofInt {i : Int} (h : x.toRat? = some (i : ℚ)) : (ofInt i).toRat? = some (i : ℚ) := by
  obtain ⟨hfinite, hunits⟩ := toRat?_eq_intCast_iff_units.1 h
  have hbelow : x.magnitude < infinityMagnitude := by simpa [isFinite] using hfinite
  have hword : x.magnitude < pow2 63 := hbelow.trans (by decide)
  have habs := absUnits_of_units hunits
  have hmagnitude : magnitudeOfRatio i.natAbs 1 = x.magnitude :=
    magnitudeOfRatio_eq hfinite Nat.one_pos (by rw [habs, Nat.mul_one])
  have hofInt : ofInt i = ofMagnitude (decide (i < 0)) x.magnitude := by
    rw [ofInt, ofRatio, hmagnitude]
  have hsame : (ofInt i).magnitude = x.magnitude := by rw [hofInt, magnitude_ofMagnitude _ hword]
  have hsign : (ofInt i).isNegative = decide (i < 0) := by
    rw [hofInt, isNegative_ofMagnitude _ hword]
  have habs' : (ofInt i).absUnits = i.natAbs * pow2 1074 := by
    rw [← habs, absUnits, absUnits, hsame]
  refine toRat?_eq_intCast_iff_units.2 ⟨by simpa [isFinite, hsame] using hbelow, ?_⟩
  rw [units, hsign, habs', Nat.cast_mul]
  by_cases hi : i < 0
  · rw [if_pos (by simpa using hi), Int.ofNat_natAbs_of_nonpos hi.le, Int.neg_mul, Int.neg_neg]
  · rw [if_neg (by simpa using hi), Int.natAbs_of_nonneg (not_lt.1 hi)]

theorem ofInt_natCast (n : Nat) : ofInt n = ofNat n := by
  have hsign : decide ((n : Int) < 0) = false := by simp
  rw [ofInt, ofNat, hsign, Int.natAbs_natCast]

/-! ## Whole numbers -/

/-- From scale 1074 on there is no place for a fraction. -/
theorem absUnits_of_le_scale (hscale : 1074 ≤ x.scale) :
    x.absUnits = x.significand * pow2 (x.scale - 1074) * pow2 1074 := by
  rw [absUnits_eq, Nat.mul_assoc, ← pow2_add, Nat.sub_add_cancel hscale]

/-- So the bits denote their significand, shifted by what is left of the scale. -/
theorem toRat?_of_le_scale {i : Int}
    (hx : x.isFinite = true ∧ x.isNegative = false ∧ 1074 ≤ x.scale)
    (hi : ((x.significand * pow2 (x.scale - 1074) : Nat) : Int) = i) : x.toRat? = some (i : ℚ) := by
  obtain ⟨hfinite, hsign, hscale⟩ := hx
  have hpositive : x.units = x.absUnits := by rw [units, hsign, if_neg Bool.false_ne_true]
  refine toRat?_eq_intCast_iff_units.2 ⟨hfinite, ?_⟩
  rw [hpositive, absUnits_of_le_scale hscale, Nat.cast_mul, hi]

/-- A whole number denotes its integer part. -/
theorem toRat?_of_isWhole (h : x.isWhole = true) : x.toRat? = some (x.truncate : ℚ) := by
  obtain ⟨hfinite, hwhole⟩ := Bool.and_eq_true_iff.1 h
  have hunits : x.absUnits / pow2 1074 * pow2 1074 = x.absUnits :=
    Nat.div_mul_cancel (Nat.dvd_of_mod_eq_zero (eq_of_beq hwhole))
  have hcast : ((x.absUnits / pow2 1074 : Nat) : Int) * pow2 1074 = x.absUnits := by
    rw [← Nat.cast_mul, hunits]
  refine toRat?_eq_intCast_iff_units.2 ⟨hfinite, ?_⟩
  rw [units, truncate]
  split
  · rw [Int.neg_mul, hcast]
  · exact hcast.symm

/-- The whole numbers of the format are the numbers that denote an integer. -/
theorem toRat?_eq_intCast_iff {i : Int} :
    x.toRat? = some (i : ℚ) ↔ x.isWhole = true ∧ x.truncate = i := by
  constructor
  · intro h
    obtain ⟨hfinite, hunits⟩ := toRat?_eq_intCast_iff_units.1 h
    have hwhole : x.isWhole = true := by
      rw [isWhole, hfinite, absUnits_of_units hunits, Nat.mul_mod_left]
      rfl
    refine ⟨hwhole, ?_⟩
    have hsame := (toRat?_of_isWhole hwhole).symm.trans h
    exact_mod_cast Option.some.inj hsame
  · rintro ⟨hwhole, rfl⟩
    exact toRat?_of_isWhole hwhole

end Binary64

end FieldRules.Number
