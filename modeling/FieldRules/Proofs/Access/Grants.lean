import FieldRules.Proofs.Access.Mask
import Mathlib.Data.Nat.Bitwise

/-!
# Masks that grants build

A mask is built from the empty one by grants, each to some position.  Read at a position it holds
the union of what was granted there, whatever was granted elsewhere and in whatever order, and its
number stays within the three bits of each position.  So a word of 32 bits holds it, and the shifts
and the narrowing to a byte, by which the word is written and read, lose nothing.

## Main definitions

* `AccessMask.afterAll` — the mask after grants in order.
* `AccessMask.grantedTo` — the union of what grants give to a position.
* `AccessMask.grantInWord`, `AccessMask.kindsInWord` — the same on words of 32 bits.

## Main statements

* `AccessMask.bits_grant_lt`, `AccessMask.bits_afterAll_lt` — the bound on the number, kept by a
  grant and so true after any grants.
* `AccessMask.kinds_foldl` — what grants add to what a position reads.
* `AccessMask.toNat_grantInWord`, `AccessMask.kindsInWord_eq` — words do what the numbers do.
* `AccessMask.afterAll_separates` — all of it for any grants, some of them beyond the last position.
-/

namespace FieldRules.AccessMask

/-- Kinds for a position. -/
structure Grant where
  position : Nat
  kind : AccessKind
  deriving DecidableEq, Repr

/-- The mask after a grant. -/
def after (m : AccessMask) (g : Grant) : AccessMask := m.grant g.position g.kind

/-- The mask that grants build in order. -/
def afterAll (grants : List Grant) : AccessMask := grants.foldl after empty

/-- The union of what grants give to a position. -/
def grantedTo (grants : List Grant) (position : Nat) : AccessKind :=
  ((grants.filter fun g => g.position = position).map Grant.kind).foldl .union .none

variable {m : AccessMask} {w : UInt32} {position : Nat} {k : AccessKind}

/-! ## The number of a mask -/

/-- The bits of a position end where those of the next one begin. -/
theorem shifted_bits_lt (k : AccessKind) (h : position < maxPrincipals) :
    k.bits <<< (3 * position) < 2 ^ 21 := by
  have hposition : 3 * position + 3 ≤ 21 := by
    rw [maxPrincipals] at h
    omega
  calc k.bits <<< (3 * position) = k.bits * 2 ^ (3 * position) := Nat.shiftLeft_eq _ _
    _ < 2 ^ 3 * 2 ^ (3 * position) := Nat.mul_lt_mul_of_pos_right k.bits_lt (Nat.two_pow_pos _)
    _ = 2 ^ (3 * position + 3) := by rw [Nat.pow_add, Nat.mul_comm]
    _ ≤ 2 ^ 21 := Nat.pow_le_pow_right (by decide) hposition

/-- A grant sets no bit beyond those of the last position. -/
theorem bits_grant_lt (hm : m.bits < 2 ^ 21) (position : Nat) (k : AccessKind) :
    (m.grant position k).bits < 2 ^ 21 := by
  rw [grant]
  split
  · exact hm
  · next h => exact Nat.or_lt_two_pow hm (shifted_bits_lt k (Nat.not_le.1 h))

theorem bits_afterAll_lt (grants : List Grant) : (afterAll grants).bits < 2 ^ 21 := by
  have hfold : ∀ m : AccessMask, m.bits < 2 ^ 21 → (grants.foldl after m).bits < 2 ^ 21 := by
    induction grants with
    | nil => exact fun _ hm => hm
    | cons g rest ih => exact fun _ hm => ih _ (bits_grant_lt hm g.position g.kind)
  exact hfold empty (by decide)

/-! ## What a position reads -/

/-- Grants beside a position do not count, and those to it are joined to what it reads. -/
theorem kinds_foldl (grants : List Grant) (m : AccessMask) (h : position < maxPrincipals) :
    (grants.foldl after m).kinds position =
      ((grants.filter fun g => g.position = position).map Grant.kind).foldl .union
        (m.kinds position) := by
  induction grants generalizing m with
  | nil => rfl
  | cons g rest ih =>
    rw [List.foldl_cons, ih, after, kinds_grant]
    by_cases hsame : g.position = position
    · rw [if_pos ⟨hsame.symm, hsame ▸ h⟩, List.filter_cons_of_pos (by simpa using hsame),
        List.map_cons, List.foldl_cons]
    · rw [if_neg fun hg => hsame hg.1.symm, List.filter_cons_of_neg (by simpa using hsame)]

theorem kinds_afterAll (grants : List Grant) (h : position < maxPrincipals) :
    (afterAll grants).kinds position = grantedTo grants position := by
  rw [afterAll, kinds_foldl grants empty h, kinds_empty, grantedTo]

/-! ## Words -/

/-- Grants kinds to a position of a word, as `grant` does: a byte is widened and shifted to its
place. -/
def grantInWord (w : UInt32) (g : Grant) : UInt32 :=
  if maxPrincipals ≤ g.position then w
  else w ||| (UInt8.ofNat g.kind.bits).toUInt32 <<< UInt32.ofNat (3 * g.position)

/-- The kinds that a word grants to a position: it is shifted back, and three bits are narrowed to a
byte. -/
def kindsInWord (w : UInt32) (position : Nat) : AccessKind :=
  if maxPrincipals ≤ position then .none
  else .ofBits ((w >>> UInt32.ofNat (3 * position)) &&& 7).toUInt8.toNat

/-- The amount of every shift is less than the width of the word. -/
theorem toNat_ofNat_mod (h : position < maxPrincipals) :
    (UInt32.ofNat (3 * position)).toNat % 32 = 3 * position := by
  rw [maxPrincipals] at h
  rw [UInt32.toNat_ofNat']
  omega

/-- What is shifted to its place in a word does not run over. -/
theorem toNat_grantInWord (w : UInt32) (g : Grant) :
    (grantInWord w g).toNat = (after ⟨w.toNat⟩ g).bits := by
  rw [grantInWord, after, grant]
  split
  · rfl
  · next h =>
    have hlt : g.kind.bits <<< (3 * g.position) < 2 ^ 32 :=
      Nat.lt_trans (shifted_bits_lt g.kind (Nat.not_le.1 h)) (by decide)
    have hbyte : (UInt8.ofNat g.kind.bits).toUInt32.toNat = g.kind.bits := by
      rw [UInt8.toNat_toUInt32, UInt8.toNat_ofNat']
      exact Nat.mod_eq_of_lt (Nat.lt_trans g.kind.bits_lt (by decide))
    rw [UInt32.toNat_or, UInt32.toNat_shiftLeft, hbyte, toNat_ofNat_mod (Nat.not_le.1 h),
      Nat.mod_eq_of_lt hlt]

/-- Three bits fit in a byte, so narrowing keeps them. -/
theorem kindsInWord_eq (w : UInt32) (position : Nat) :
    kindsInWord w position = kinds ⟨w.toNat⟩ position := by
  rw [kindsInWord, kinds]
  split
  · rfl
  · next h =>
    rw [UInt32.toNat_toUInt8, UInt32.toNat_and, UInt32.toNat_shiftRight,
      toNat_ofNat_mod (Nat.not_le.1 h)]
    have hnarrow : w.toNat >>> (3 * position) % 8 % 2 ^ 8 = w.toNat >>> (3 * position) % 8 :=
      Nat.mod_eq_of_lt (Nat.lt_trans (Nat.mod_lt _ (by decide)) (by decide))
    rw [← hnarrow, ← Nat.and_two_pow_sub_one_eq_mod _ 3]
    rfl

theorem toNat_foldl_grantInWord (grants : List Grant) (w : UInt32) :
    (grants.foldl grantInWord w).toNat = (grants.foldl after ⟨w.toNat⟩).bits := by
  induction grants generalizing w with
  | nil => rfl
  | cons g rest ih =>
    rw [List.foldl_cons, List.foldl_cons, ih, toNat_grantInWord]

/-! ## Any grants -/

/-- **What grants leave in a mask.**  Every position reads the union of the kinds granted to it, and
one beyond the last reads none; the number stays below `2 ^ 21`; and one grant more changes what is
read at its own position only.  The same grants on a word of 32 bits build this number, and the
word is read alike at every position. -/
theorem afterAll_separates (grants : List Grant) :
    (∀ position, (afterAll grants).kinds position =
      if position < maxPrincipals then grantedTo grants position else .none) ∧
    (afterAll grants).bits < 2 ^ 21 ∧
    (∀ (g : Grant) (position : Nat), position ≠ g.position →
      (afterAll (grants ++ [g])).kinds position = (afterAll grants).kinds position) ∧
    (grants.foldl grantInWord 0).toNat = (afterAll grants).bits ∧
    ∀ position, kindsInWord (grants.foldl grantInWord 0) position =
      (afterAll grants).kinds position := by
  have hword : (grants.foldl grantInWord 0).toNat = (afterAll grants).bits :=
    toNat_foldl_grantInWord grants 0
  refine ⟨fun position => ?_, bits_afterAll_lt grants, fun g position hne => ?_, hword,
    fun position => ?_⟩
  · by_cases h : position < maxPrincipals
    · rw [if_pos h, kinds_afterAll grants h]
    · rw [if_neg h, kinds_of_le (Nat.not_lt.1 h)]
  · rw [afterAll, List.foldl_append, List.foldl_cons, List.foldl_nil, after, kinds_grant,
      if_neg fun h => hne h.1, afterAll]
  · rw [kindsInWord_eq, hword]

/-- Grants to two neighbours, to one of them twice, and to a position beyond the last. -/
def neighbours : List Grant := [⟨1, .writing⟩, ⟨2, .reading⟩, ⟨7, .all⟩, ⟨1, .reading⟩]

/-- The first position stays without access, also when its neighbour is granted everything. -/
theorem afterAll_separates_neighbours :
    (afterAll neighbours).kinds 1 = .all ∧ (afterAll neighbours).kinds 2 = .reading ∧
      (afterAll neighbours).kinds 7 = .none ∧ 0 ≠ 1 ∧
      (afterAll (neighbours ++ [⟨1, .all⟩])).kinds 0 = .none := by
  obtain ⟨hkinds, -, happart, -, -⟩ := afterAll_separates neighbours
  have hfirst : (0 : Nat) ≠ 1 := by decide
  refine ⟨hkinds 1, hkinds 2, hkinds 7, hfirst, ?_⟩
  rw [happart ⟨1, .all⟩ 0 hfirst, hkinds 0]
  rfl

end FieldRules.AccessMask
