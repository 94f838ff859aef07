/-!
# Base64

The standard alphabet with its padding required: groups of four characters, a last group of two
or three characters filled up with `=`, no blanks, and no set bit outside the bytes a group
stands for.
-/

namespace FieldRules.Text.Base64

/-- The six bits that a character of the alphabet stands for. -/
def sextet? (c : Char) : Option Nat :=
  let n := c.toNat
  if c.isUpper then some (n - 65)
  else if c.isLower then some (n - 71)
  else if c.isDigit then some (n + 4)
  else if c == '+' then some 62
  else if c == '/' then some 63
  else none

/-- Whether a text is the encoding of some bytes. -/
def isEncoded : List Char → Bool
  | [] => true
  | [a, b, '=', '='] =>
    match sextet? a, sextet? b with
    | some _, some y => y % 16 == 0
    | _, _ => false
  | [a, b, c, '='] =>
    match sextet? a, sextet? b, sextet? c with
    | some _, some _, some z => z % 4 == 0
    | _, _, _ => false
  | a :: b :: c :: d :: rest =>
    (sextet? a).isSome && (sextet? b).isSome && (sextet? c).isSome && (sextet? d).isSome
      && isEncoded rest
  | _ => false

end FieldRules.Text.Base64
