import FieldRules.Constraint.Basic
import FieldRules.Proofs.Number.Extended

/-!
# Comparing numbers of different widths

A number of any width denotes an extended real number, unless it is not a number, and comparisons and
equality are meant to go by what the numbers denote.  Two integers and two floating numbers are
compared so.  An integer and a floating number are compared after the integer has been rounded, which
answers that the two are equal where the integer is rounded to the floating number and is another one;
everywhere else the answer is the exact one.

## Main definitions

* `Numeric.toEReal?` — the extended real number that a number of any width denotes.
* `Comparison.Relates` — what an operator says of two numbers.
* `Numeric.IsBlurred` — the pairs that rounding makes equal.

## Main statements

* `Numeric.compare?_of_toEReal?` — how two numbers are found to compare.
* `Constraint.compares_exactly_iff` — comparisons and equality are exact exactly where nothing is
  blurred.
-/

namespace FieldRules

open Number (Binary64)

/-! ## Exact numbers -/

namespace Numeric

/-- A number as a value. -/
def toValue : Numeric → Value
  | .int i => .int i
  | .uint u => .uint u
  | .float x => .float x

/-- The extended real number that a number of any width denotes. -/
noncomputable def toEReal? : Numeric → Option EReal
  | .int i => some ((i.toInt : ℝ) : EReal)
  | .uint u => some ((u.toNat : ℝ) : EReal)
  | .float x => x.toEReal?

/-- The pairs of an integer and a floating number that rounding makes equal. -/
def IsBlurred : Numeric → Numeric → Prop
  | .int i, .float x => x.Blurs i.toInt
  | .uint u, .float x => x.Blurs u.toNat
  | .float x, .int i => x.Blurs i.toInt
  | .float x, .uint u => x.Blurs u.toNat
  | _, _ => False

end Numeric

/-- What an operator says of two numbers. -/
def Comparison.Relates (p q : EReal) : Comparison → Prop
  | .eq => p = q
  | .ne => p ≠ q
  | .gt => q < p
  | .ge => q ≤ p
  | .lt => p < q
  | .le => p ≤ q

variable {p q : EReal} {o : Ordering}

/-- The operators tell how two numbers compare. -/
theorem Comparison.holds_iff (h : o.Compares p q) (op : Comparison) :
    op.holds o = true ↔ op.Relates p q := by
  cases op with
  | eq => simp [holds, Relates, h.eq_eq]
  | ne => simp [holds, Relates, h.eq_eq]
  | gt => simp [holds, Relates, h.eq_gt]
  | ge => simp [holds, Relates, h.ne_lt]
  | lt => simp [holds, Relates, h.eq_lt]
  | le => simp [holds, Relates, h.ne_gt]

theorem Comparison.compares_iff_forall_holds :
    o.Compares p q ↔ ∀ op : Comparison, op.holds o = true ↔ op.Relates p q := by
  refine ⟨Comparison.holds_iff, fun h => ?_⟩
  cases o with
  | lt => exact (h .lt).1 rfl
  | eq => exact (h .eq).1 rfl
  | gt => exact (h .gt).1 rfl

/-! ## How numbers are compared -/

namespace Numeric

variable {a b : Numeric} {m n : Int} {x y : Binary64}

theorem isBlurred_comm : a.IsBlurred b ↔ b.IsBlurred a := by
  cases a <;> cases b <;> rfl

theorem natAbs_le_of_toInt? (h : a.toInt? = some n) : n.natAbs ≤ 18446744073709551616 := by
  cases a with
  | int i =>
    cases h
    have := i.le_toInt
    have := i.toInt_lt
    omega
  | uint u =>
    cases h
    have := u.toNat_lt
    omega
  | float x => cases h

theorem toEReal?_of_toInt? (h : a.toInt? = some n) : a.toEReal? = some ((n : ℝ) : EReal) := by
  cases a with
  | int i =>
    cases h
    rfl
  | uint u =>
    cases h
    rw [toEReal?, Int.cast_natCast]
  | float x => cases h

theorem toBinary64_of_toInt? (h : a.toInt? = some n) : a.toBinary64 = Binary64.ofInt n := by
  cases a with
  | int i =>
    cases h
    rfl
  | uint u =>
    cases h
    exact (Binary64.ofInt_natCast u.toNat).symm
  | float x => cases h

theorem isBlurred_float_iff (h : a.toInt? = some n) : a.IsBlurred (.float x) ↔ x.Blurs n := by
  cases a <;> cases h <;> rfl

theorem not_isBlurred_of_toInt? (ha : a.toInt? = some m) (hb : b.toInt? = some n) :
    ¬ a.IsBlurred b := by
  cases a <;> cases b <;> cases ha <;> cases hb <;> exact id

theorem exists_float_of_toInt? (h : a.toInt? = none) : ∃ x, a = .float x := by
  cases a with
  | float x => exact ⟨x, rfl⟩
  | _ => cases h

/-- Integers are compared exactly. -/
theorem compares_intCast (m n : Int) :
    (compare m n).Compares ((m : ℝ) : EReal) ((n : ℝ) : EReal) := by
  rcases lt_trichotomy m n with hlt | rfl | hgt
  · rw [compare_lt_iff_lt.2 hlt]
    exact EReal.coe_lt_coe_iff.2 (Int.cast_lt.2 hlt)
  · rw [compare_eq_iff_eq.2 rfl]
    exact rfl
  · rw [compare_gt_iff_gt.2 hgt]
    exact EReal.coe_lt_coe_iff.2 (Int.cast_lt.2 hgt)

theorem compare?_of_isNaN (hx : x.isNaN = false) (hy : y.isNaN = false) :
    x.compare? y = some (compare x.units y.units) := by
  simp [Binary64.compare?, hx, hy]

/-- An integer is rounded before it is compared with a floating number. -/
theorem compare?_float_of_toInt? (ha : a.toInt? = some n) (hx : x.isNaN = false) :
    a.compare? (.float x) = some (compare (Binary64.ofInt n).units x.units) := by
  have hn := natAbs_le_of_toInt? ha
  rw [compare?, ha]
  show a.toBinary64.compare? x = _
  rw [toBinary64_of_toInt? ha]
  exact compare?_of_isNaN (Binary64.isNaN_of_isFinite (Binary64.isFinite_ofInt hn)) hx

/-- An integer and a floating number are found to compare as they do, unless they are blurred. -/
theorem compare?_integer_float (ha : a.toInt? = some n) (hx : x.toEReal? = some q) :
    ∃ o, a.compare? (.float x) = some o ∧
      (o.Compares ((n : ℝ) : EReal) q ↔ ¬ a.IsBlurred (.float x)) := by
  refine ⟨_, compare?_float_of_toInt? ha (Binary64.isNaN_of_toEReal? hx), ?_⟩
  rw [isBlurred_float_iff ha]
  exact Binary64.compares_ofInt_iff hx (natAbs_le_of_toInt? ha)

/-- An integer and the number that it is rounded to are found to be equal. -/
theorem compare?_float_of_ofInt (ha : a.toInt? = some n) (hx : x.isNaN = false)
    (hn : Binary64.ofInt n = x) : a.compare? (.float x) = some .eq := by
  rw [compare?_float_of_toInt? ha hx, hn, compare_eq_iff_eq.2 rfl]

theorem compare?_float_swap (x y : Binary64) :
    x.compare? y = (y.compare? x).map Ordering.swap := by
  rw [Binary64.compare?, Binary64.compare?, Bool.or_comm]
  split
  · rfl
  · exact congrArg some (Int.compare_swap _ _).symm

/-- Numbers are compared the same from both sides. -/
theorem compare?_swap (a b : Numeric) : a.compare? b = (b.compare? a).map Ordering.swap := by
  rw [compare?, compare?]
  cases a.toInt? with
  | some m =>
    cases b.toInt? with
    | some n => exact congrArg some (Int.compare_swap _ _).symm
    | none => exact compare?_float_swap _ _
  | none => cases b.toInt? <;> exact compare?_float_swap _ _

/-- **Two numbers of any widths** are found to compare as what they denote, unless they are
blurred. -/
theorem compare?_of_toEReal? (ha : a.toEReal? = some p) (hb : b.toEReal? = some q) :
    ∃ o, a.compare? b = some o ∧ (o.Compares p q ↔ ¬ a.IsBlurred b) := by
  cases hm : a.toInt? with
  | some m =>
    obtain rfl : ((m : ℝ) : EReal) = p := Option.some.inj ((toEReal?_of_toInt? hm).symm.trans ha)
    cases hn : b.toInt? with
    | some n =>
      obtain rfl : ((n : ℝ) : EReal) = q := Option.some.inj ((toEReal?_of_toInt? hn).symm.trans hb)
      refine ⟨compare m n, by rw [compare?, hm, hn], ?_⟩
      exact iff_of_true (compares_intCast m n) (not_isBlurred_of_toInt? hm hn)
    | none =>
      obtain ⟨x, rfl⟩ := exists_float_of_toInt? hn
      exact compare?_integer_float hm hb
  | none =>
    obtain ⟨x, rfl⟩ := exists_float_of_toInt? hm
    cases hn : b.toInt? with
    | some n =>
      obtain rfl : ((n : ℝ) : EReal) = q := Option.some.inj ((toEReal?_of_toInt? hn).symm.trans hb)
      obtain ⟨o, ho, hexact⟩ := compare?_integer_float hn ha
      refine ⟨o.swap, by rw [compare?_swap, ho]; rfl, ?_⟩
      rw [Ordering.compares_swap, hexact, isBlurred_comm]
    | none =>
      obtain ⟨y, rfl⟩ := exists_float_of_toInt? hn
      refine ⟨compare x.units y.units, ?_, ?_⟩
      · exact compare?_of_isNaN (Binary64.isNaN_of_toEReal? ha) (Binary64.isNaN_of_toEReal? hb)
      · have hexact := (Binary64.hasUnits_of_toEReal? ha).compares (Binary64.hasUnits_of_toEReal? hb)
        exact iff_of_true hexact id

/-- What is not a number is found to compare with nothing. -/
theorem compare?_of_toEReal?_none (ha : a.toEReal? = none) (b : Numeric) : a.compare? b = none := by
  cases a with
  | float x =>
    have hx : x.isNaN = true := Binary64.isNaN_of_toEReal?_none ha
    rw [compare?]
    cases b.toInt? <;> simp [toInt?, toBinary64, Binary64.compare?, hx]
  | _ => cases ha

@[simp] theorem isNull_toValue (a : Numeric) : a.toValue.isNull = false := by
  cases a <;> rfl

@[simp] theorem numeric?_toValue (a : Numeric) : a.toValue.numeric? = some a := by
  cases a <;> rfl

theorem same_toValue (a b : Numeric) : a.toValue.same b.toValue = (a.compare? b == some .eq) := by
  simp [Value.same]

/-- A number that is not blurred with another is the same exactly when it denotes the same. -/
theorem same_iff (ha : a.toEReal? = some p) (h : ¬ b.IsBlurred a) :
    b.toValue.same a.toValue = true ↔ b.toEReal? = some p := by
  rw [same_toValue, beq_iff_eq]
  cases hb : b.toEReal? with
  | none => simp [compare?_of_toEReal?_none hb]
  | some q =>
    obtain ⟨o, ho, hexact⟩ := compare?_of_toEReal? hb ha
    rw [ho, Option.some_inj, Option.some_inj]
    exact (hexact.2 h).eq_eq

end Numeric

/-! ## Comparisons and equality -/

namespace Constraint

variable {a b : Numeric}

theorem test_compare (a b : Numeric) (op : Comparison) :
    (compare op b).test a.toValue = ((a.compare? b).map op.holds).getD false := by
  simp [test, testNumber]

/-- **Comparisons and equality go by the exact numbers** exactly where the two are not blurred, that
is where rounding an integer does not make it equal to a floating number that it is not; and so does
the choice among numbers of which none is blurred. -/
theorem compares_exactly_iff (ha : a.toEReal? = some p) (hb : b.toEReal? = some q) :
    (((∀ op, (compare op b).test a.toValue = true ↔ op.Relates p q) ∧
        (a.toValue.same b.toValue = true ↔ p = q) ∧
        ((equals b.toValue).test a.toValue = true ↔ p = q)) ↔ ¬ a.IsBlurred b) ∧
      ∀ options : List Numeric, (∀ option ∈ options, ¬ option.IsBlurred a) →
        ((oneOf (options.map Numeric.toValue)).test a.toValue = true ↔
          ∃ option ∈ options, option.toEReal? = some p) := by
  obtain ⟨o, ho, hexact⟩ := Numeric.compare?_of_toEReal? ha hb
  have hops : (∀ op, (compare op b).test a.toValue = true ↔ op.Relates p q) ↔ o.Compares p q := by
    simp only [test_compare, ho, Option.map_some, Option.getD_some]
    exact Comparison.compares_iff_forall_holds.symm
  have hsame : o.Compares p q → (a.toValue.same b.toValue = true ↔ p = q) := by
    intro h
    rw [Numeric.same_toValue, ho, beq_iff_eq, Option.some_inj]
    exact h.eq_eq
  refine ⟨⟨fun h => hexact.1 (hops.1 h.1), fun h => ?_⟩, fun options hoptions => ?_⟩
  · have hcompares := hexact.2 h
    exact ⟨hops.2 hcompares, hsame hcompares, hsame hcompares⟩
  · simp only [test, List.any_map, List.any_eq_true, Function.comp_apply]
    exact exists_congr fun option => and_congr_right fun hmem =>
      Numeric.same_iff ha (hoptions option hmem)

/-- The greatest unsigned integer is greater than the greatest floating number below `2 ^ 64`, and is
found to be so. -/
theorem compares_exactly_greatest :
    (Numeric.uint 18446744073709551615).toEReal? = some ((18446744073709551615 : ℝ) : EReal) ∧
    (Numeric.float ⟨0x43efffffffffffff⟩).toEReal? = some ((18446744073709549568 : ℝ) : EReal) ∧
    (compare .gt (.float ⟨0x43efffffffffffff⟩)).test (.uint 18446744073709551615) = true ∧
    (oneOf [.float ⟨0x43efffffffffffff⟩]).test (.uint 18446744073709551615) = false := by
  have hword : (18446744073709551615 : UInt64).toNat = 18446744073709551615 := by decide
  have hbelow : Binary64.toRat? ⟨0x43efffffffffffff⟩ = some ((18446744073709549568 : Int) : ℚ) :=
    Binary64.toRat?_of_le_scale (by decide) (by decide)
  have hrounded : (Binary64.ofInt (18446744073709551615 : Int)).toRat? =
      some ((18446744073709551616 : Int) : ℚ) := by
    rw [Binary64.ofInt_greatest]
    exact Binary64.toRat?_of_le_scale (by decide) (by decide)
  have ha : (Numeric.uint 18446744073709551615).toEReal? =
      some ((18446744073709551615 : ℝ) : EReal) := by
    simp [Numeric.toEReal?, hword]
  have hb : (Numeric.float ⟨0x43efffffffffffff⟩).toEReal? =
      some ((18446744073709549568 : ℝ) : EReal) := by
    simp [Numeric.toEReal?, Binary64.toEReal?, hbelow]
  have hclear : ¬ (Numeric.uint 18446744073709551615).IsBlurred (.float ⟨0x43efffffffffffff⟩) := by
    rintro ⟨r, hr, hr', -⟩
    rw [hword] at hr
    have hsame := Option.some.inj (hr'.symm.trans hbelow)
    have hother := Option.some.inj (hr.symm.trans hrounded)
    rw [hsame] at hother
    norm_num at hother
  obtain ⟨hexact, hchoice⟩ := compares_exactly_iff ha hb
  refine ⟨ha, hb, ((hexact.2 hclear).1 .gt).2 ?_, ?_⟩
  · exact EReal.coe_lt_coe_iff.2 (by norm_num)
  · have hnone := hchoice [.float ⟨0x43efffffffffffff⟩]
      (by simpa [Numeric.isBlurred_comm] using hclear)
    rw [← Bool.not_eq_true]
    intro h
    obtain ⟨option, hoption, heq⟩ := hnone.1 h
    rw [List.mem_singleton.1 hoption, hb, Option.some_inj, EReal.coe_eq_coe_iff] at heq
    norm_num at heq

/-- The integer `2 ^ 53 + 1` is rounded to `2 ^ 53` and found equal to it, and the greatest unsigned
integer is not found to be less than `2 ^ 64`. -/
theorem compares_exactly_blurred :
    (∃ p q, (Numeric.int 9007199254740993).toEReal? = some p ∧
      (Numeric.float ⟨0x4340000000000000⟩).toEReal? = some q ∧ p ≠ q ∧
      (compare .eq (.float ⟨0x4340000000000000⟩)).test (.int 9007199254740993) = true ∧
      (Value.int 9007199254740993).same (.float ⟨0x4340000000000000⟩) = true) ∧
    ∃ p q, (Numeric.uint 18446744073709551615).toEReal? = some p ∧
      (Numeric.float ⟨0x43f0000000000000⟩).toEReal? = some q ∧ p < q ∧
      (compare .lt (.float ⟨0x43f0000000000000⟩)).test (.uint 18446744073709551615) = false := by
  constructor
  · have hword : (9007199254740993 : Int64).toInt = 9007199254740993 := by decide
    have hx : Binary64.toRat? ⟨0x4340000000000000⟩ = some ((9007199254740992 : Int) : ℚ) :=
      Binary64.toRat?_of_le_scale (by decide) (by decide)
    have hcompare : (Numeric.int 9007199254740993).compare? (.float ⟨0x4340000000000000⟩) =
        some .eq :=
      Numeric.compare?_float_of_ofInt (congrArg some hword) (by decide) Binary64.ofInt_two_pow_succ
    refine ⟨((9007199254740993 : ℝ) : EReal), ((9007199254740992 : ℝ) : EReal), ?_, ?_, ?_, ?_, ?_⟩
    · simp [Numeric.toEReal?, hword]
    · simp [Numeric.toEReal?, Binary64.toEReal?, hx]
    · rw [Ne, EReal.coe_eq_coe_iff]
      norm_num
    · exact (test_compare (.int _) (.float _) .eq).trans (by rw [hcompare]; rfl)
    · exact (Numeric.same_toValue (.int _) (.float _)).trans (by rw [hcompare]; rfl)
  · have hword : (18446744073709551615 : UInt64).toNat = 18446744073709551615 := by decide
    have hx : Binary64.toRat? ⟨0x43f0000000000000⟩ = some ((18446744073709551616 : Int) : ℚ) :=
      Binary64.toRat?_of_le_scale (by decide) (by decide)
    have hcompare : (Numeric.uint 18446744073709551615).compare? (.float ⟨0x43f0000000000000⟩) =
        some .eq :=
      Numeric.compare?_float_of_ofInt (congrArg (some ∘ Int.ofNat) hword) (by decide)
        Binary64.ofInt_greatest
    refine ⟨((18446744073709551615 : ℝ) : EReal), ((18446744073709551616 : ℝ) : EReal),
      ?_, ?_, ?_, ?_⟩
    · simp [Numeric.toEReal?, hword]
    · simp [Numeric.toEReal?, Binary64.toEReal?, hx]
    · exact EReal.coe_lt_coe_iff.2 (by norm_num)
    · exact (test_compare (.uint _) (.float _) .lt).trans (by rw [hcompare]; rfl)

end Constraint

end FieldRules
