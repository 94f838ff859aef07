/-!
# Ranges of characters as ranges of bytes

A range of code points is split so that every part is written, in UTF-8, as a fixed number of bytes
of which each runs through a range of its own, whatever the others are.  A part is then a list of
byte ranges, and the parts come in rising order.

A range can be split like that once its ends have the same bytes in front of those that run from
the first to the last continuation byte.

## Main definitions

* `ByteRanges.encode` — the bytes of a code point.
* `ByteRanges.ofRange` — the parts of a range of code points.
-/

namespace FieldRules.Pattern.ByteRanges

/-- The byte ranges of a part, the leading byte first. -/
abbrev Part := List (Nat × Nat)

/-- The bytes of a code point. -/
def encode (code : Nat) : List Nat :=
  let continuation (shift : Nat) : Nat := 0x80 + code / shift % 64
  if code < 0x80 then [code]
  else if code < 0x800 then [0xC0 + code / 64, continuation 1]
  else if code < 0x10000 then [0xE0 + code / 4096, continuation 64, continuation 1]
  else [0xF0 + code / 262144, continuation 4096, continuation 64, continuation 1]

/-- The code points that the last bytes of a character run through, for one byte, two and three. -/
def blocks : List Nat := [64, 4096, 262144]

/-- Where to split a range of characters of one length: before the code point that is answered.  The
blocks are tried from small to large. -/
def splitPoint? (first last : Nat) : List Nat → Option Nat
  | [] => none
  | block :: larger =>
    if first / block = last / block then splitPoint? first last larger
    else if first % block ≠ 0 then some ((first / block + 1) * block)
    else if last % block ≠ block - 1 then some (last / block * block)
    else splitPoint? first last larger

/-- The parts of a range of characters of one length; the first argument bounds the splits. -/
def split : Nat → Nat → Nat → List Part
  | 0, _, _ => []
  | fuel + 1, first, last =>
    match splitPoint? first last (if last < 0x80 then [] else blocks) with
    | some middle => split fuel first (middle - 1) ++ split fuel middle last
    | none => [(encode first).zip (encode last)]

/-- The ranges of code points whose characters have the same length, without the surrogates. -/
def lengths : List (Nat × Nat) :=
  [(0, 0x7F), (0x80, 0x7FF), (0x800, 0xD7FF), (0xE000, 0xFFFF), (0x10000, 0x10FFFF)]

/-- The parts of a range of code points. -/
def ofRange (range : Nat × Nat) : List Part :=
  lengths.flatMap fun l =>
    let first := max range.1 l.1
    let last := min range.2 l.2
    if first ≤ last then split 8 first last else []

end FieldRules.Pattern.ByteRanges
