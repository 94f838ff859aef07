import FieldRules.Number.Literal

/-!
# Reading back what was written

An integer is written with its decimal digits, after a minus sign when it is negative.  The readers
of integers take the digits from the left onto a number that may not leave a range, so that what was
written is read as the integer itself when it lies in the range, and is found to be too large or too
small when it does not.

## Main definitions

* `numeral` — how an integer is written.

## Main statements

* `accumulateUp_eq`, `accumulateDown_eq` — what digits are read as.
* `readSigned_numeral`, `readUnsigned_numeral` — what a written integer is read as.
* `readInt64_numeral`, `readUInt64_numeral` — the same for the words of sixty-four bits.
-/

namespace FieldRules.Number

/-- How an integer is written. -/
def numeral (i : Int) : List Char := (toString i).toList

variable {high depth acc n : Nat} {i : Int} {digits : List Char} {c : Char}

/-! ## Written integers -/

theorem numeral_natCast (n : Nat) : numeral n = Nat.toDigits 10 n := Nat.toList_repr

/-- A negative integer is written with a minus sign and the digits of its opposite. -/
theorem numeral_negSucc (n : Nat) : numeral (Int.negSucc n) = '-' :: Nat.toDigits 10 (n + 1) := by
  show ("-" ++ (n + 1).repr).toList = _
  rw [String.toList_append, Nat.toList_repr]
  rfl

/-- Digits of a natural number begin with a digit. -/
theorem exists_toDigits_eq_cons (n : Nat) :
    ∃ c more, Nat.toDigits 10 n = c :: more ∧ c.isDigit = true := by
  obtain ⟨c, more, hdigits⟩ := List.exists_cons_of_ne_nil (Nat.toDigits_ne_nil (n := n) (b := 10))
  refine ⟨c, more, hdigits, Nat.isDigit_of_mem_toDigits (b := 10) (n := n) (by omega) (by omega) ?_⟩
  rw [hdigits]
  exact List.mem_cons_self

/-- A written integer is made of digits and a minus sign. -/
theorem isDigit_of_mem_numeral (h : c ∈ numeral i) : c.isDigit = true ∨ c = '-' := by
  cases i with
  | ofNat n =>
    rw [Int.ofNat_eq_natCast, numeral_natCast] at h
    exact .inl (Nat.isDigit_of_mem_toDigits (by omega) (by omega) h)
  | negSucc n =>
    rw [numeral_negSucc] at h
    rcases List.mem_cons.1 h with rfl | h
    · exact .inr rfl
    · exact .inl (Nat.isDigit_of_mem_toDigits (by omega) (by omega) h)

/-- A written integer is no truth value. -/
theorem readBool?_numeral (i : Int) : readBool? (numeral i) = none := by
  have hnot : ∀ c, c.isDigit = false → c ≠ '-' → c ∉ numeral i := by
    intro c hdigit hminus hmem
    rcases isDigit_of_mem_numeral hmem with h | h
    · exact Bool.noConfusion (hdigit.symm.trans h)
    · exact hminus h
  unfold readBool?
  split
  · next h => exact absurd (h ▸ List.mem_cons_self) (hnot 't' rfl (by decide))
  · next h => exact absurd (h ▸ List.mem_cons_self) (hnot 'f' rfl (by decide))
  · rfl

/-! ## Reading digits -/

/-- More digits make no smaller number. -/
theorem le_ofDigitChars (digits : List Char) (acc : Nat) :
    acc ≤ Nat.ofDigitChars 10 digits acc := by
  induction digits generalizing acc with
  | nil => exact Nat.le_refl acc
  | cons c rest ih =>
    rw [Nat.ofDigitChars_cons]
    have hrest := ih (10 * acc + (c.toNat - '0'.toNat))
    omega

/-- **Digits are read as the number that they make**, if that is not too large. -/
theorem accumulateUp_eq (hdigits : ∀ c ∈ digits, c.isDigit = true) (hacc : acc ≤ high) :
    accumulateUp high acc digits =
      if high < Nat.ofDigitChars 10 digits acc then .error .tooLarge
      else .ok (Nat.ofDigitChars 10 digits acc) := by
  induction digits generalizing acc with
  | nil => rw [accumulateUp, Nat.ofDigitChars_nil, if_neg (Nat.not_lt.2 hacc)]
  | cons c rest ih =>
    have hc : c.isDigit = true := hdigits c List.mem_cons_self
    have hnext : 10 * acc + (c.toNat - '0'.toNat) = acc * 10 + digitValue c := by
      rw [Nat.mul_comm]
      rfl
    rw [accumulateUp, hc, Nat.ofDigitChars_cons, hnext]
    simp only [Bool.not_true, Bool.false_eq_true, if_false]
    by_cases hlarge : high < acc * 10 + digitValue c
    · have hmore := le_ofDigitChars rest (acc * 10 + digitValue c)
      rw [if_pos hlarge, if_pos (Nat.lt_of_lt_of_le hlarge hmore)]
    · rw [if_neg hlarge]
      exact ih (fun d hd => hdigits d (List.mem_cons_of_mem _ hd)) (Nat.not_lt.1 hlarge)

/-- Digits of a negative number are read like those of a number that is not, and are told to be too
small where those are too large. -/
theorem accumulateDown_eq (depth acc : Nat) (digits : List Char) :
    accumulateDown depth acc digits = (accumulateUp depth acc digits).mapError fun fault =>
      if fault = .tooLarge then .tooSmall else fault := by
  induction digits generalizing acc with
  | nil => rfl
  | cons c rest ih =>
    rw [accumulateDown, accumulateUp]
    cases c.isDigit with
    | false => rfl
    | true =>
      simp only [Bool.not_true, Bool.false_eq_true, if_false]
      by_cases hbeyond : depth < acc * 10 + digitValue c
      · rw [if_pos hbeyond, if_pos hbeyond]
        rfl
      · rw [if_neg hbeyond, if_neg hbeyond]
        exact ih (acc * 10 + digitValue c)

theorem accumulateUp_toDigits (high n : Nat) :
    accumulateUp high 0 (Nat.toDigits 10 n) = if high < n then .error .tooLarge else .ok n := by
  rw [accumulateUp_eq (fun c hc => Nat.isDigit_of_mem_toDigits (by omega) (by omega) hc)
    (Nat.zero_le high), Nat.ofDigitChars_ten_toDigits]

theorem accumulateDown_toDigits (depth n : Nat) :
    accumulateDown depth 0 (Nat.toDigits 10 n) = if depth < n then .error .tooSmall else .ok n := by
  rw [accumulateDown_eq, accumulateUp_toDigits]
  split <;> rfl

/-! ## Reading integers -/

/-- Without a sign in front all characters are taken as digits. -/
theorem readSigned_of_isDigit (hc : c.isDigit = true) (depth high : Nat) (more : List Char) :
    readSigned depth high (c :: more) = (accumulateUp high 0 (c :: more)).map Int.ofNat := by
  have hplus : c ≠ '+' := by rintro rfl; cases hc
  have hminus : c ≠ '-' := by rintro rfl; cases hc
  unfold readSigned
  split <;> simp_all

theorem readUnsigned_of_isDigit (hc : c.isDigit = true) (high : Nat) (more : List Char) :
    readUnsigned high (c :: more) = accumulateUp high 0 (c :: more) := by
  have hplus : c ≠ '+' := by rintro rfl; cases hc
  unfold readUnsigned
  split <;> simp_all

/-- **A written integer is read as itself** if it lies in the range, and is otherwise told to be too
small or too large. -/
theorem readSigned_numeral (depth high : Nat) (i : Int) :
    readSigned depth high (numeral i) =
      if i < -(depth : Int) then .error .tooSmall
      else if (high : Int) < i then .error .tooLarge else .ok i := by
  cases i with
  | ofNat n =>
    obtain ⟨c, more, hdigits, hc⟩ := exists_toDigits_eq_cons n
    have hsign : ¬ (n : Int) < -(depth : Int) := by omega
    rw [Int.ofNat_eq_natCast, numeral_natCast, hdigits, readSigned_of_isDigit hc, ← hdigits,
      accumulateUp_toDigits, if_neg hsign]
    by_cases hlarge : high < n
    · rw [if_pos hlarge, if_pos (by omega)]
      rfl
    · rw [if_neg hlarge, if_neg (by omega)]
      rfl
  | negSucc n =>
    obtain ⟨c, more, hdigits, hc⟩ := exists_toDigits_eq_cons (n + 1)
    have hread : readSigned depth high ('-' :: c :: more) =
        (accumulateDown depth 0 (c :: more)).map fun n => -(n : Int) := rfl
    have hsign : ¬ (high : Int) < Int.negSucc n := by omega
    rw [numeral_negSucc, hdigits, hread, ← hdigits, accumulateDown_toDigits, if_neg hsign]
    by_cases hsmall : depth < n + 1
    · rw [if_pos hsmall, if_pos (by omega)]
      rfl
    · rw [if_neg hsmall, if_neg (by omega)]
      rfl

theorem readUnsigned_numeral (high n : Nat) :
    readUnsigned high (numeral n) = if high < n then .error .tooLarge else .ok n := by
  obtain ⟨c, more, hdigits, hc⟩ := exists_toDigits_eq_cons n
  rw [numeral_natCast, hdigits, readUnsigned_of_isDigit hc, ← hdigits, accumulateUp_toDigits]

/-! ## Words of sixty-four bits -/

theorem readInt64_numeral (i : Int64) : readInt64 (numeral i.toInt) = .ok i := by
  have hlow : -9223372036854775808 ≤ i.toInt := i.le_toInt
  have hhigh : i.toInt < 9223372036854775808 := i.toInt_lt
  rw [readInt64, readSigned_numeral, if_neg (by omega), if_neg (by omega)]
  exact congrArg Except.ok (Int64.ofInt_toInt i)

theorem readUInt64_numeral (u : UInt64) : readUInt64 (numeral u.toNat) = .ok u := by
  have hhigh : u.toNat < 18446744073709551616 := u.toNat_lt
  rw [readUInt64, readUnsigned_numeral, if_neg (by omega)]
  exact congrArg Except.ok UInt64.ofNat_toNat

/-- A natural number is read as a signed word when it fits one. -/
theorem readInt64_numeral_natCast (n : Nat) :
    readInt64 (numeral n) =
      if n < 9223372036854775808 then .ok (Int64.ofNat n) else .error .tooLarge := by
  rw [readInt64, readSigned_numeral, if_neg (by omega)]
  by_cases hfits : n < 9223372036854775808
  · rw [if_neg (by omega), if_pos hfits]
    rfl
  · rw [if_pos (by omega), if_neg hfits]
    rfl

end FieldRules.Number
