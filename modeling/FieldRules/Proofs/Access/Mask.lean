import FieldRules.Access

/-!
# Masks by position

A mask holds three bits for each position.  Read by positions it is a function to sets of kinds, and
a grant changes this function at one position only, although the bits of all positions stand side
by side in one number.

## Main statements

* `AccessMask.kinds_grant` — a grant is a union at one position.
-/

namespace FieldRules

namespace AccessKind

@[simp] theorem union_none (k : AccessKind) : k.union none = k := by
  cases k
  simp [union, none]

@[simp] theorem none_union (k : AccessKind) : none.union k = k := by
  cases k
  simp [union, none]

theorem union_assoc (a b c : AccessKind) : (a.union b).union c = a.union (b.union c) := by
  simp [union, Bool.or_assoc]

/-! ## Sets of kinds as bits -/

/-- Bits beyond the third do not count. -/
theorem ofBits_mod (n : Nat) : ofBits (n % 8) = ofBits n := by
  have hbit : ∀ i < 3, (n % 8).testBit i = n.testBit i := by
    intro i hi
    rw [show 8 = 2 ^ 3 from rfl, Nat.testBit_mod_two_pow, decide_eq_true hi, Bool.true_and]
  rw [ofBits, ofBits, hbit 0 (by decide), hbit 1 (by decide), hbit 2 (by decide)]

theorem ofBits_zero : ofBits 0 = none := rfl

theorem ofBits_or (n m : Nat) : ofBits (n ||| m) = (ofBits n).union (ofBits m) := by
  simp [ofBits, union]

theorem bits_lt (k : AccessKind) : k.bits < 8 := by
  rcases k with ⟨_ | _, _ | _, _ | _⟩ <;> decide

theorem testBit_bits_of_le (k : AccessKind) {i : Nat} (hi : 3 ≤ i) :
    k.bits.testBit i = false := by
  refine Nat.testBit_lt_two_pow ?_
  calc k.bits < 8 := k.bits_lt
    _ = 2 ^ 3 := rfl
    _ ≤ 2 ^ i := Nat.pow_le_pow_right (by decide) hi

/-- The bits of one position, read at another one, say nothing. -/
theorem ofBits_shifted_of_ne (k : AccessKind) {granted position : Nat} (h : position ≠ granted) :
    ofBits (k.bits <<< (3 * granted) >>> (3 * position)) = none := by
  have hbit : ∀ i < 3, (k.bits <<< (3 * granted) >>> (3 * position)).testBit i = false := by
    intro i hi
    rw [Nat.testBit_shiftRight, Nat.testBit_shiftLeft]
    by_cases hle : 3 * granted ≤ 3 * position + i
    · rw [k.testBit_bits_of_le (by omega), Bool.and_false]
    · simp [hle]
  rw [ofBits, hbit 0 (by decide), hbit 1 (by decide), hbit 2 (by decide)]
  rfl

end AccessKind

namespace AccessMask

variable {m : AccessMask} {position : Nat}

theorem kinds_of_le (h : maxPrincipals ≤ position) : m.kinds position = .none := if_pos h

theorem kinds_of_lt (h : position < maxPrincipals) :
    m.kinds position = .ofBits (m.bits >>> (3 * position)) := by
  rw [kinds, if_neg (Nat.not_le.2 h), AccessKind.ofBits_mod]

@[simp] theorem kinds_empty (position : Nat) : empty.kinds position = .none := by
  by_cases h : position < maxPrincipals
  · rw [kinds_of_lt h, empty, Nat.zero_shiftRight, AccessKind.ofBits_zero]
  · exact kinds_of_le (Nat.not_lt.1 h)

/-- **A grant is a union at one position.**  Beyond the last position nothing can be granted. -/
theorem kinds_grant (m : AccessMask) (granted : Nat) (k : AccessKind) (position : Nat) :
    (m.grant granted k).kinds position =
      if position = granted ∧ granted < maxPrincipals then (m.kinds position).union k
      else m.kinds position := by
  by_cases hgranted : granted < maxPrincipals
  · by_cases hposition : position < maxPrincipals
    · have hunion : (m.grant granted k).kinds position = (m.kinds position).union
          (.ofBits (k.bits <<< (3 * granted) >>> (3 * position))) := by
        rw [kinds_of_lt hposition, kinds_of_lt hposition, grant, if_neg (Nat.not_le.2 hgranted),
          Nat.shiftRight_or_distrib, AccessKind.ofBits_or]
      rw [hunion]
      by_cases hsame : position = granted
      · rw [if_pos ⟨hsame, hgranted⟩, hsame, Nat.shiftLeft_shiftRight, AccessKind.ofBits_bits]
      · rw [if_neg fun h => hsame h.1, AccessKind.ofBits_shifted_of_ne k hsame,
          AccessKind.union_none]
    · have hne : ¬(position = granted ∧ granted < maxPrincipals) := by
        rintro ⟨rfl, -⟩
        exact hposition hgranted
      rw [if_neg hne, kinds_of_le (Nat.not_lt.1 hposition), kinds_of_le (Nat.not_lt.1 hposition)]
  · rw [grant, if_pos (Nat.not_lt.1 hgranted), if_neg fun h => hgranted h.2]

end AccessMask

end FieldRules
