import FieldRules.Number.Binary64

/-!
# Shortest decimals

The decimal written for a binary number is the shortest one that reads back as that number: among
the decimals with the fewest digits inside the interval of reals that round to the number, the one
nearest to it.  When two are equally near, a rule given by the format that is written decides.

The search is exact.  For one digit, two digits and so on it looks at the number's two neighbours
on the grid of decimals with that many digits, and stops at the first grid where one of them lies
in the interval.
-/

namespace FieldRules.Number

/-- The decimal `digits * 10 ^ exponent`. -/
structure Decimal where
  digits : Nat
  exponent : Int
  deriving DecidableEq, Repr

/-- Which of two equally near decimals is written. -/
inductive TieRule where
  | up
  | toEven
  deriving DecidableEq, Repr

namespace Decimal

/-- Moves the trailing zeros of the digits into the exponent. -/
def stripZeros : Nat → Nat → Int → Decimal
  | 0, digits, exponent => ⟨digits, exponent⟩
  | fuel + 1, digits, exponent =>
    if digits ≠ 0 ∧ digits % 10 = 0 then stripZeros fuel (digits / 10) (exponent + 1)
    else ⟨digits, exponent⟩

end Decimal

namespace Binary64

/-- The reals that round to a number, in quarter units, with its ends counted in or not. -/
structure RoundingInterval where
  low : Nat
  high : Nat
  closed : Bool

/-- The interval of a positive finite number.  Half a gap reaches to each side, and half as far
down from a power of two; the ends round to the number when its fraction is even. -/
def roundingInterval (x : Binary64) : RoundingInterval :=
  let exponent := x.magnitude / pow2 52
  let gap := pow2 (exponent - 1)
  let center := 4 * x.absUnits
  let below := if x.magnitude % pow2 52 = 0 ∧ 1 < exponent then gap else 2 * gap
  ⟨center - below, center + 2 * gap, x.magnitude % 2 == 0⟩

/-- The position of the leading decimal digit of a positive finite number. -/
def leadingPosition (x : Binary64) : Int :=
  ((Nat.toDigits 10 (x.absUnits * pow10 400 / pow2 1074)).length : Int) - 401

/-- The nearer neighbour on the grid of spacing `10 ^ exponent` that lies in the rounding
interval, if there is one. -/
def neighbour? (x : Binary64) (tie : TieRule) (exponent : Int) : Option Nat :=
  let interval := x.roundingInterval
  let up := pow10 (-exponent).toNat
  let step := pow2 1076 * pow10 exponent.toNat
  let value := 4 * x.absUnits * up
  let inside (d : Nat) : Bool :=
    let p := d * step
    if interval.closed then interval.low * up ≤ p && p ≤ interval.high * up
    else interval.low * up < p && p < interval.high * up
  let d := value / step
  let r := value % step
  let preferUpper : Bool :=
    step < 2 * r || (2 * r == step && (tie == .up || d % 2 == 1))
  match inside d, inside (d + 1) with
  | true, true => some (if preferUpper then d + 1 else d)
  | true, false => some d
  | false, true => some (d + 1)
  | false, false => none

/-- Looks on the grids of one more digit each; seventeen digits always suffice. -/
def shortestFrom (x : Binary64) (tie : TieRule) (leading : Int) : Nat → Nat → Decimal
  | 0, _ => ⟨0, 0⟩
  | fuel + 1, count =>
    let exponent := leading + 1 - count
    match x.neighbour? tie exponent with
    | some d => Decimal.stripZeros 20 d exponent
    | none => shortestFrom x tie leading fuel (count + 1)

/-- The shortest decimal that reads back as the magnitude of a finite number. -/
def shortest (x : Binary64) (tie : TieRule) : Decimal :=
  if x.isZero then ⟨0, 0⟩ else shortestFrom x tie x.leadingPosition 18 1

end Binary64

end FieldRules.Number
