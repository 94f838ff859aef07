import FieldRules.Number.Binary64

/-!
# Number literals

Readers of the texts that stand for integers, floating numbers and truth values.  A reader takes
the whole text or fails; blanks are for the caller to remove.

An integer literal is a sign and decimal digits.  The digits are taken from the left, so of two
faults the one that is met first is reported.  A floating literal is a sign and digits with an
optional point and exponent, or one of the words for infinity and not-a-number in any letter case,
and is rounded once, from the exact decimal.
-/

namespace FieldRules.Number

/-- Why a text is no integer literal. -/
inductive IntegerFault where
  | empty
  | invalidDigit
  | tooLarge
  | tooSmall
  deriving DecidableEq, Repr

/-- How the fault is told. -/
def IntegerFault.message : IntegerFault → String
  | .empty => "cannot parse integer from empty string"
  | .invalidDigit => "invalid digit found in string"
  | .tooLarge => "number too large to fit in target type"
  | .tooSmall => "number too small to fit in target type"

/-- The value of a decimal digit. -/
def digitValue (c : Char) : Nat := c.toNat - 48

/-- Takes digits from the left onto a non-negative number that may not exceed `high`. -/
def accumulateUp (high : Nat) (acc : Nat) : List Char → Except IntegerFault Nat
  | [] => .ok acc
  | c :: rest =>
    if !c.isDigit then .error .invalidDigit
    else
      let next := acc * 10 + digitValue c
      if high < next then .error .tooLarge else accumulateUp high next rest

/-- Takes digits from the left onto the magnitude of a number that may not fall below `-depth`. -/
def accumulateDown (depth : Nat) (acc : Nat) : List Char → Except IntegerFault Nat
  | [] => .ok acc
  | c :: rest =>
    if !c.isDigit then .error .invalidDigit
    else
      let next := acc * 10 + digitValue c
      if depth < next then .error .tooSmall else accumulateDown depth next rest

/-- Reads an integer between `-depth` and `high` with an optional sign. -/
def readSigned (depth high : Nat) : List Char → Except IntegerFault Int
  | [] => .error .empty
  | ['+'] => .error .invalidDigit
  | ['-'] => .error .invalidDigit
  | '+' :: digits => (accumulateUp high 0 digits).map Int.ofNat
  | '-' :: digits => (accumulateDown depth 0 digits).map fun n => -(n : Int)
  | digits => (accumulateUp high 0 digits).map Int.ofNat

/-- Reads a natural number up to `high`; a minus sign is no digit. -/
def readUnsigned (high : Nat) : List Char → Except IntegerFault Nat
  | [] => .error .empty
  | ['+'] => .error .invalidDigit
  | '+' :: digits => accumulateUp high 0 digits
  | digits => accumulateUp high 0 digits

/-- Reads a signed 64-bit integer. -/
def readInt64 (s : List Char) : Except IntegerFault Int64 :=
  (readSigned 9223372036854775808 9223372036854775807 s).map Int64.ofInt

/-- Reads an unsigned 64-bit integer. -/
def readUInt64 (s : List Char) : Except IntegerFault UInt64 :=
  (readUnsigned 18446744073709551615 s).map UInt64.ofNat

/-- Why a text is no floating literal. -/
inductive FloatFault where
  | empty
  | invalid
  deriving DecidableEq, Repr

/-- How the fault is told. -/
def FloatFault.message : FloatFault → String
  | .empty => "cannot parse float from empty string"
  | .invalid => "invalid float literal"

/-- The number that a run of decimal digits denotes. -/
def naturalOf (digits : List Char) : Nat :=
  digits.foldl (fun n c => n * 10 + digitValue c) 0

/-- Takes a sign off the front; the flag says whether it is a minus. -/
def takeSign : List Char → Bool × List Char
  | '-' :: rest => (true, rest)
  | '+' :: rest => (false, rest)
  | s => (false, s)

/-- Reads the exponent that follows the digits, where nothing at all stands for zero. -/
def readExponent? : List Char → Option Int
  | [] => some 0
  | c :: rest =>
    if c == 'e' || c == 'E' then
      let (negative, digits) := takeSign rest
      if digits.isEmpty || !digits.all Char.isDigit then none
      else
        let n : Int := naturalOf digits
        some (if negative then -n else n)
    else none

/-- Reads an unsigned decimal with an optional point and exponent. -/
def readDecimal? (negative : Bool) (s : List Char) : Option Binary64 := do
  let whole := s.takeWhile Char.isDigit
  let rest := s.dropWhile Char.isDigit
  let (fraction, rest) := match rest with
    | '.' :: more => (more.takeWhile Char.isDigit, more.dropWhile Char.isDigit)
    | rest => ([], rest)
  if whole.isEmpty && fraction.isEmpty then none
  else
    let exponent ← readExponent? rest
    some (Binary64.ofDecimal negative (naturalOf (whole ++ fraction)) (exponent - fraction.length))

/-- Reads a floating literal. -/
def readFloat (s : List Char) : Except FloatFault Binary64 :=
  if s.isEmpty then .error .empty
  else
    let (negative, body) := takeSign s
    let word := String.ofList (body.map Char.toLower)
    if word == "inf" || word == "infinity" then .ok (Binary64.infinity negative)
    else if word == "nan" then .ok (if negative then Binary64.nan.neg else Binary64.nan)
    else match readDecimal? negative body with
      | some x => .ok x
      | none => .error .invalid

/-- Reads one of the two words for truth values. -/
def readBool? : List Char → Option Bool
  | ['t', 'r', 'u', 'e'] => some true
  | ['f', 'a', 'l', 's', 'e'] => some false
  | _ => none

/-- How a text that is no truth value is told.  The backquotes are part of the message. -/
def boolFaultMessage : String := "provided string was not \x60true\x60 or \x60false\x60"

end FieldRules.Number
