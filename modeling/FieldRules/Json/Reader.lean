import FieldRules.Json.Basic
import FieldRules.Number.Literal

/-!
# Reading JSON text

A strict reader: the grammar of JSON with the four ASCII blanks, no comments, no trailing commas,
no control characters inside strings, and surrogate escapes only in pairs.  Arrays and objects nest
at most 127 deep.

An integer literal is exact when it fits sixty-four bits.  Every other number is floating: its
significand is as many leading digits as fit an unsigned word, and the power of ten is multiplied
or divided in afterwards, so the result may be rounded twice; a number beyond the largest finite
one is refused.

A scanner takes characters and answers what it read with the characters that are left.
-/

namespace FieldRules.Json.Reader

open FieldRules.Number

/-- Drops the blanks in front. -/
def skipBlanks (s : List Char) : List Char :=
  s.dropWhile fun c => c == ' ' || c == '\t' || c == '\n' || c == '\r'

/-! ## Strings -/

/-- The value of a hexadecimal digit. -/
def hexValue? (c : Char) : Option Nat :=
  let n := c.toNat
  if c.isDigit then some (n - 48)
  else if 97 ≤ n && n ≤ 102 then some (n - 87)
  else if 65 ≤ n && n ≤ 70 then some (n - 55)
  else none

/-- Reads four hexadecimal digits. -/
def hexCode? : List Char → Option (Nat × List Char)
  | a :: b :: c :: d :: rest => do
    let a ← hexValue? a
    let b ← hexValue? b
    let c ← hexValue? c
    let d ← hexValue? d
    some (((a * 16 + b) * 16 + c) * 16 + d, rest)
  | _ => none

/-- Reads what follows `\u`: one code unit, or two that form a pair. -/
def unicodeEscape? (s : List Char) : Option (Char × List Char) := do
  let (high, rest) ← hexCode? s
  if 0xD800 ≤ high && high < 0xDC00 then
    match rest with
    | '\\' :: 'u' :: more =>
      let (low, rest) ← hexCode? more
      if 0xDC00 ≤ low && low < 0xE000 then
        some (Char.ofNat (0x10000 + (high - 0xD800) * 1024 + (low - 0xDC00)), rest)
      else none
    | _ => none
  else if 0xDC00 ≤ high && high < 0xE000 then none
  else some (Char.ofNat high, rest)

/-- Reads what follows a backslash. -/
def escape? : List Char → Option (Char × List Char)
  | [] => none
  | c :: rest =>
    if c == '"' || c == '\\' || c == '/' then some (c, rest)
    else if c == 'b' then some (Char.ofNat 8, rest)
    else if c == 'f' then some (Char.ofNat 12, rest)
    else if c == 'n' then some ('\n', rest)
    else if c == 'r' then some ('\r', rest)
    else if c == 't' then some ('\t', rest)
    else if c == 'u' then unicodeEscape? rest
    else none

/-- Reads the rest of a string after its opening quote.  The first argument bounds the number of
characters still to be read. -/
def stringBody? : Nat → List Char → Option (List Char × List Char)
  | 0, _ => none
  | _, [] => none
  | fuel + 1, c :: rest =>
    if c == '"' then some ([], rest)
    else if c == '\\' then do
      let (d, rest) ← escape? rest
      let (body, rest) ← stringBody? fuel rest
      some (d :: body, rest)
    else if c.toNat < 32 then none
    else do
      let (body, rest) ← stringBody? fuel rest
      some (c :: body, rest)

/-- Reads a string after its opening quote. -/
def string? (s : List Char) : Option (String × List Char) := do
  let (body, rest) ← stringBody? (s.length + 1) s
  some (String.ofList body, rest)

/-! ## Numbers -/

/-- The largest significand. -/
def maxSignificand : Nat := 18446744073709551615

/-- Takes digits while the significand still fits; answers it, how many were taken, and the rest. -/
def takeSignificand (acc count : Nat) : List Char → Nat × Nat × List Char
  | [] => (acc, count, [])
  | c :: rest =>
    if c.isDigit && acc * 10 + digitValue c ≤ maxSignificand then
      takeSignificand (acc * 10 + digitValue c) (count + 1) rest
    else (acc, count, c :: rest)

/-- Whether a digit comes next. -/
def startsWithDigit (s : List Char) : Bool := (s.head?.map Char.isDigit).getD false

/-- The floating number nearest to a power of ten. -/
def powerOfTen (n : Nat) : Binary64 := Binary64.ofNat (pow10 n)

/-- Scales a magnitude by a power of ten, one power of at most 308 at a time.  Three rounds bring
every magnitude to zero that a lower exponent could still divide. -/
def scale? : Nat → Binary64 → Int → Option Binary64
  | 0, x, _ => some x
  | fuel + 1, x, exponent =>
    if exponent.natAbs ≤ 308 then
      if 0 ≤ exponent then
        let y := x.mul (powerOfTen exponent.natAbs)
        if y.isInfinite then none else some y
      else some (x.div (powerOfTen exponent.natAbs))
    else if x.isZero then some x
    else if 0 ≤ exponent then none
    else scale? fuel (x.div (powerOfTen 308)) (exponent + 308)

/-- The floating number of a sign, a significand and a power of ten. -/
def assemble? (negative : Bool) (significand : Nat) (exponent : Int) : Option Json.Number := do
  let magnitude ← scale? 4 (Binary64.ofNat significand) exponent
  let x := if negative then magnitude.neg else magnitude
  if h : x.isFinite = true then some (.float x h) else none

/-- Reads what follows the exponent mark. -/
def exponent? (negative : Bool) (significand : Nat) (shift : Int) (s : List Char) :
    Option (Json.Number × List Char) := do
  let (down, digits) := takeSign s
  if !startsWithDigit digits then none
  else
    let n : Int := naturalOf (digits.takeWhile Char.isDigit)
    let x ← assemble? negative significand (if down then shift - n else shift + n)
    some (x, digits.dropWhile Char.isDigit)

/-- Reads an optional exponent and finishes the number. -/
def finishFloat? (negative : Bool) (significand : Nat) (shift : Int) (s : List Char) :
    Option (Json.Number × List Char) :=
  match s with
  | 'e' :: rest => exponent? negative significand shift rest
  | 'E' :: rest => exponent? negative significand shift rest
  | rest => do
    let x ← assemble? negative significand shift
    some (x, rest)

/-- Reads what follows the point.  Digits that no longer fit the significand are dropped. -/
def fraction? (negative : Bool) (significand : Nat) (shift : Int) (s : List Char) :
    Option (Json.Number × List Char) :=
  let (wider, count, rest) := takeSignificand significand 0 s
  if startsWithDigit rest then
    finishFloat? negative wider (shift - count) (rest.dropWhile Char.isDigit)
  else if count = 0 then none
  else finishFloat? negative wider (shift - count) rest

/-- The number of an integer literal that fits a word: zero with a minus sign and what lies below
the signed range are floating. -/
def integerNumber? (negative : Bool) (n : Nat) : Option Json.Number :=
  if negative && (n == 0 || 9223372036854775808 < n) then assemble? true n 0
  else
    let i : Int := if negative then -n else n
    if h : -9223372036854775808 ≤ i ∧ i < 18446744073709551616 then some (.integer i h) else none

/-- Reads a number after its sign. -/
def unsignedNumber? (negative : Bool) (s : List Char) : Option (Json.Number × List Char) :=
  let (significand, _, rest) := takeSignificand 0 0 s
  if !startsWithDigit s then none
  else if s.head? == some '0' && startsWithDigit (s.drop 1) then none
  else if startsWithDigit rest then
    let shift := (rest.takeWhile Char.isDigit).length
    match rest.dropWhile Char.isDigit with
    | '.' :: more => fraction? negative significand shift more
    | rest => finishFloat? negative significand shift rest
  else match rest with
    | '.' :: more => fraction? negative significand 0 more
    | 'e' :: more => exponent? negative significand 0 more
    | 'E' :: more => exponent? negative significand 0 more
    | rest => (integerNumber? negative significand).map (·, rest)

/-- Reads a number. -/
def number? : List Char → Option (Json.Number × List Char)
  | '-' :: rest => unsignedNumber? true rest
  | s => unsignedNumber? false s

/-! ## Documents -/

/-- Takes a fixed word off the front. -/
def word? (w : List Char) (s : List Char) : Option (List Char) :=
  if w.isPrefixOf s then some (s.drop w.length) else none

/-- How deep arrays and objects may nest. -/
def maxDepth : Nat := 127

mutual

/-- Reads a value.  The first argument bounds the steps still to be taken, the second how deep the
value may still nest. -/
def value? : Nat → Nat → List Char → Option (Json × List Char)
  | 0, _, _ => none
  | fuel + 1, depth, s =>
    match skipBlanks s with
    | [] => none
    | '"' :: rest => do
      let (text, rest) ← string? rest
      some (.string text, rest)
    | '[' :: rest =>
      match depth with
      | 0 => none
      | depth + 1 =>
        match skipBlanks rest with
        | ']' :: rest => some (.array [], rest)
        | rest => do
          let (items, rest) ← items? fuel depth rest
          some (.array items, rest)
    | '\x7b' :: rest =>
      match depth with
      | 0 => none
      | depth + 1 =>
        match skipBlanks rest with
        | '\x7d' :: rest => some (.object [], rest)
        | rest => do
          let (entries, rest) ← entries? fuel depth rest
          some (.object entries, rest)
    | c :: rest =>
      if c == 'n' then (word? ['u', 'l', 'l'] rest).map (.null, ·)
      else if c == 't' then (word? ['r', 'u', 'e'] rest).map (.bool true, ·)
      else if c == 'f' then (word? ['a', 'l', 's', 'e'] rest).map (.bool false, ·)
      else (number? (c :: rest)).map fun r => (.number r.1, r.2)

/-- Reads the items of an array, of which there is at least one, and its closing bracket. -/
def items? : Nat → Nat → List Char → Option (List Json × List Char)
  | 0, _, _ => none
  | fuel + 1, depth, s => do
    let (item, rest) ← value? fuel depth s
    match skipBlanks rest with
    | ',' :: rest =>
      let (items, rest) ← items? fuel depth rest
      some (item :: items, rest)
    | ']' :: rest => some ([item], rest)
    | _ => none

/-- Reads the entries of an object, of which there is at least one, and its closing bracket. -/
def entries? : Nat → Nat → List Char → Option (List (String × Json) × List Char)
  | 0, _, _ => none
  | fuel + 1, depth, s =>
    match skipBlanks s with
    | '"' :: rest => do
      let (key, rest) ← string? rest
      match skipBlanks rest with
      | ':' :: rest =>
        let (item, rest) ← value? fuel depth rest
        match skipBlanks rest with
        | ',' :: rest =>
          let (entries, rest) ← entries? fuel depth rest
          some ((key, item) :: entries, rest)
        | '\x7d' :: rest => some ([(key, item)], rest)
        | _ => none
      | _ => none
    | _ => none

end

/-- Reads a whole text and keeps the entries of objects as they are written. -/
def document? (s : List Char) : Option Json := do
  let (json, rest) ← value? (s.length + 1) maxDepth s
  if (skipBlanks rest).isEmpty then some json else none

end Reader

/-- The document that a text denotes. -/
def ofText? (s : String) : Option Json := (Reader.document? s.toList).map normalize

end FieldRules.Json
