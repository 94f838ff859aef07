import FieldRules.Number.Shortest

/-!
# How a number is written

Two written forms of a binary number share the shortest digits and differ in layout.  The plain
form never has an exponent and drops the fraction of a whole number.  The form of a JSON document
always has a fraction or an exponent, so that it reads back as a floating number.
-/

namespace FieldRules.Number

/-- The decimal digits of a natural number. -/
def digitsOf (n : Nat) : List Char := Nat.toDigits 10 n

/-- Digits with a point after the first `point` of them; zeros fill the places that have none. -/
def placePoint (digits : List Char) (point : Int) : List Char × List Char :=
  if point ≤ 0 then ([], List.replicate (-point).toNat '0' ++ digits)
  else
    let n := point.toNat
    (digits.take n ++ List.replicate (n - digits.length) '0', digits.drop n)

namespace Binary64

/-- The sign that is written in front. -/
def signText (x : Binary64) : List Char := if x.isNegative then ['-'] else []

/-- The plain form: `3`, `-0`, `0.0000001`, `inf`, `NaN`. -/
def plainChars (x : Binary64) : List Char :=
  if x.isNaN then "NaN".toList
  else if x.isInfinite then x.signText ++ "inf".toList
  else
    let d := x.shortest .up
    let digits := digitsOf d.digits
    let (whole, fraction) := placePoint digits (digits.length + d.exponent)
    x.signText ++ (if whole.isEmpty then ['0'] else whole)
      ++ (if fraction.isEmpty then [] else '.' :: fraction)

/-- The plain form as text. -/
def plainText (x : Binary64) : String := String.ofList x.plainChars

/-- The form of a JSON document, of a finite number: positional from `1e-5` below `1e16`, and
`d.ddde+N` otherwise. -/
def jsonChars (x : Binary64) : List Char :=
  if x.isZero then x.signText ++ "0.0".toList
  else
    let d := x.shortest .toEven
    let digits := digitsOf d.digits
    let point : Int := digits.length + d.exponent
    if -5 < point ∧ point ≤ 16 then
      let (whole, fraction) := placePoint digits point
      x.signText ++ (if whole.isEmpty then ['0'] else whole) ++ '.' ::
        (if fraction.isEmpty then ['0'] else fraction)
    else
      let exponent := point - 1
      let tail := digits.drop 1
      x.signText ++ digits.take 1 ++ (if tail.isEmpty then [] else '.' :: tail)
        ++ ['e', if exponent < 0 then '-' else '+'] ++ digitsOf exponent.natAbs

end Binary64

end FieldRules.Number
