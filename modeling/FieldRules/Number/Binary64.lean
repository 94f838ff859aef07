/-!
# Binary floating point, 64 bits wide

A number of the binary64 format is its word of bits: a sign, eleven bits of exponent and fifty-two
of fraction.  Every finite number of the format is a whole multiple of `2 ^ (-1074)`, so `units`,
the multiple as an integer, is an exact view: the order of numbers is the order of their units,
and an infinity has a magnitude above every finite one.  Nothing here uses the machine's own
floating point, so every operation can be computed in a proof.

## Main definitions

* `Binary64.units` — the exact number, in units of `2 ^ (-1074)`.
* `Binary64.compare?` — the partial order: nothing compares with what is not a number.
* `Binary64.ofRatio` — the nearest number of the format, ties to the even neighbour.
* `Binary64.toSingle` — the nearest number that has a single-precision form.
-/

namespace FieldRules.Number

/-- Two to a power. -/
abbrev pow2 (n : Nat) : Nat := Nat.pow 2 n

/-- Ten to a power. -/
abbrev pow10 (n : Nat) : Nat := Nat.pow 10 n

/-- The quotient rounded to the nearest integer, a half to the even neighbour. -/
def roundDiv (num den : Nat) : Nat :=
  let q := num / den
  let r := num % den
  if den < 2 * r || (2 * r == den && q % 2 == 1) then q + 1 else q

/-- How many binary digits a number has: none for zero. -/
def bitLength (n : Nat) : Nat := if n = 0 then 0 else n.log2 + 1

/-- A number of the binary64 format, given by its bits. -/
structure Binary64 where
  bits : UInt64
  deriving DecidableEq

namespace Binary64

/-- The sign bit. -/
def isNegative (x : Binary64) : Bool := pow2 63 ≤ x.bits.toNat

/-- The word without its sign bit: larger for larger magnitudes. -/
def magnitude (x : Binary64) : Nat := x.bits.toNat % pow2 63

/-- The magnitude of the infinities. -/
def infinityMagnitude : Nat := 2047 * pow2 52

/-- A number from its sign and its magnitude word. -/
def ofMagnitude (negative : Bool) (magnitude : Nat) : Binary64 :=
  ⟨UInt64.ofNat (if negative then pow2 63 + magnitude else magnitude)⟩

/-- Not a number. -/
def isNaN (x : Binary64) : Bool := infinityMagnitude < x.magnitude

/-- Neither an infinity nor not a number. -/
def isFinite (x : Binary64) : Bool := x.magnitude < infinityMagnitude

/-- One of the two infinities. -/
def isInfinite (x : Binary64) : Bool := x.magnitude == infinityMagnitude

/-- The quiet not-a-number. -/
def nan : Binary64 := ofMagnitude false (infinityMagnitude + pow2 51)

/-- An infinity of the given sign. -/
def infinity (negative : Bool) : Binary64 := ofMagnitude negative infinityMagnitude

/-- A zero of the given sign. -/
def zero (negative : Bool) : Binary64 := ofMagnitude negative 0

/-- The magnitude as a multiple of `2 ^ (-1074)`.  An infinity counts as the number that its bits
would denote if the format went on, which is above every finite number. -/
def absUnits (x : Binary64) : Nat :=
  let exponent := x.magnitude / pow2 52
  let fraction := x.magnitude % pow2 52
  if exponent = 0 then fraction else (pow2 52 + fraction) * pow2 (exponent - 1)

/-- The number as a multiple of `2 ^ (-1074)`. -/
def units (x : Binary64) : Int := if x.isNegative then -(x.absUnits : Int) else x.absUnits

/-- The same number with the other sign. -/
def neg (x : Binary64) : Binary64 := ofMagnitude (!x.isNegative) x.magnitude

/-! ## Order -/

/-- How two numbers compare; not at all when one is not a number.  The zeros are equal. -/
def compare? (x y : Binary64) : Option Ordering :=
  if x.isNaN || y.isNaN then none else some (compare x.units y.units)

/-- Equality of numbers, which is not equality of bits: zeros of both signs are equal, and what is
not a number equals nothing. -/
def numEq (x y : Binary64) : Bool := x.compare? y == some .eq

/-- Whether the number is a zero of either sign. -/
def isZero (x : Binary64) : Bool := x.magnitude == 0

/-! ## Rounding -/

/-- The magnitude word nearest to a quotient: the quotient's leading fifty-three bits, or fewer
where the format has no smaller unit, with everything too large becoming an infinity. -/
def magnitudeOfRatio (num den : Nat) : Nat :=
  let scaled := num * pow2 1074
  let shift := bitLength (scaled / den) - 53
  min (shift * pow2 52 + roundDiv scaled (den * pow2 shift)) infinityMagnitude

/-- The number nearest to a signed quotient. -/
def ofRatio (negative : Bool) (num den : Nat) : Binary64 :=
  ofMagnitude negative (magnitudeOfRatio num den)

/-- The number nearest to a natural number. -/
def ofNat (n : Nat) : Binary64 := ofRatio false n 1

/-- The number nearest to an integer. -/
def ofInt (i : Int) : Binary64 := ofRatio (decide (i < 0)) i.natAbs 1

/-- The number nearest to `digits * 10 ^ exponent`.  Exponents so large or so small that only an
infinity or a zero can result are answered without computing the power. -/
def ofDecimal (negative : Bool) (digits : Nat) (exponent : Int) : Binary64 :=
  if digits = 0 then zero negative
  else
    let position := exponent + (Nat.toDigits 10 digits).length
    if 310 < position then infinity negative
    else if position < -330 then zero negative
    else if 0 ≤ exponent then ofRatio negative (digits * pow10 exponent.toNat) 1
    else ofRatio negative digits (pow10 (-exponent).toNat)

/-- The product, rounded. -/
def mul (x y : Binary64) : Binary64 :=
  ofRatio (x.isNegative != y.isNegative) (x.absUnits * y.absUnits) (pow2 2148)

/-- The quotient by a number other than zero, rounded. -/
def div (x y : Binary64) : Binary64 :=
  ofRatio (x.isNegative != y.isNegative) x.absUnits y.absUnits

/-- The nearest number that single precision holds: twenty-four leading bits, none below
`2 ^ (-149)`, and an infinity from `2 ^ 128` on. -/
def toSingle (x : Binary64) : Binary64 :=
  if !x.isFinite then x
  else
    let u := x.absUnits
    let quantum := pow2 (max (bitLength u - 24) 925)
    let rounded := roundDiv u quantum * quantum
    if pow2 1202 ≤ rounded then infinity x.isNegative
    else ofRatio x.isNegative rounded (pow2 1074)

/-! ## Whole numbers -/

/-- Whether the number is finite and has no fraction. -/
def isWhole (x : Binary64) : Bool := x.isFinite && x.absUnits % pow2 1074 == 0

/-- The integer part. -/
def truncate (x : Binary64) : Int :=
  let whole : Nat := x.absUnits / pow2 1074
  if x.isNegative then -(whole : Int) else whole

end Binary64

end FieldRules.Number
