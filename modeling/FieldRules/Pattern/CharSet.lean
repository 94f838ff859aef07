import FieldRules.Pattern.WordClass
import FieldRules.Text.LetterCase

/-!
# Sets of characters

What a pattern can ask of a single character.  A set is a list of ranges of code points in rising
order in which no two ranges touch, so a set has one form and sets can be compared.  The surrogates
are no characters: a range may run across them, and none begins or ends among them.

## Main definitions

* `CharSet.ofRanges` — the set of some ranges in any order.
* `CharSet.compl`, `CharSet.union`, `CharSet.inter`, `CharSet.diff`, `CharSet.symmDiff` — the
  operations on sets.
* `CharSet.upToCase` — closes a set under letter case.
-/

namespace FieldRules.Pattern

/-- A set of characters. -/
structure CharSet where
  ranges : List (Nat × Nat)
  deriving DecidableEq, Repr

namespace CharSet

/-- Whether a code point is in the set. -/
def hasCode (s : CharSet) (code : Nat) : Bool := s.ranges.any fun r => r.1 ≤ code && code ≤ r.2

/-- Membership. -/
def contains (s : CharSet) (c : Char) : Bool := s.hasCode c.toNat

/-- No character. -/
def empty : CharSet := ⟨[]⟩

/-- The set of one character. -/
def single (c : Char) : CharSet := ⟨[(c.toNat, c.toNat)]⟩

/-- Joins neighbours that overlap or touch, in a list of ranges that is sorted by their beginnings. -/
def join : List (Nat × Nat) → List (Nat × Nat)
  | a :: b :: rest =>
    if b.1 ≤ a.2 + 1 then join ((a.1, max a.2 b.2) :: rest) else a :: join (b :: rest)
  | ranges => ranges
  termination_by ranges => ranges.length

/-- The set of some ranges in any order. -/
def ofRanges (ranges : List (Nat × Nat)) : CharSet :=
  ⟨join (ranges.mergeSort fun a b => a.1 ≤ b.1)⟩

/-- The set of the characters in either set. -/
def union (a b : CharSet) : CharSet := ofRanges (a.ranges ++ b.ranges)

/-- The character after a code point. -/
def next (code : Nat) : Nat := if code = 0xD7FF then 0xE000 else code + 1

/-- The character before a code point. -/
def previous (code : Nat) : Nat := if code = 0xE000 then 0xD7FF else code - 1

/-- The last code point. -/
def lastCode : Nat := 0x10FFFF

/-- The ranges between some ranges, from a code point on. -/
def gaps (start : Nat) : List (Nat × Nat) → List (Nat × Nat)
  | [] => if start ≤ lastCode then [(start, lastCode)] else []
  | r :: rest =>
    if start < r.1 then (start, previous r.1) :: gaps (next r.2) rest else gaps (next r.2) rest

/-- The set of all other characters. -/
def compl (s : CharSet) : CharSet := ⟨gaps 0 s.ranges⟩

/-- The ranges that two lists of ranges share. -/
def meet : List (Nat × Nat) → List (Nat × Nat) → List (Nat × Nat)
  | a :: as, b :: bs =>
    let more := if a.2 < b.2 then meet as (b :: bs) else meet (a :: as) bs
    if max a.1 b.1 ≤ min a.2 b.2 then (max a.1 b.1, min a.2 b.2) :: more else more
  | _, _ => []
  termination_by as bs => as.length + bs.length

/-- The set of the characters in both sets. -/
def inter (a b : CharSet) : CharSet := ⟨meet a.ranges b.ranges⟩

/-- What lies in the first set and not in the second. -/
def diff (a b : CharSet) : CharSet := inter a (compl b)

/-- What lies in just one of two sets. -/
def symmDiff (a b : CharSet) : CharSet := union (diff a b) (diff b a)

/-! ## Letter case -/

/-- Whether some character between two code points is in the set. -/
def touches (s : CharSet) (first last : Nat) : Bool :=
  s.ranges.any fun r => r.1 ≤ last && first ≤ r.2

/-- The ranges of the single code points of a list. -/
def points (codes : List Nat) : List (Nat × Nat) := codes.map fun c => (c, c)

/-- What the characters of a set fold to, as far as folding concerns them. -/
def folded (s : CharSet) : CharSet :=
  ofRanges (Text.foldRuns.flatMap fun r =>
    if s.touches r.first r.last || s.touches (r.image r.first) (r.image r.last) then
      points ((r.members.filter fun c => s.hasCode c || s.hasCode (r.image c)).map r.image)
    else [])

/-- The characters that fold into a set. -/
def unfolded (s : CharSet) : List (Nat × Nat) :=
  Text.foldRuns.flatMap fun r =>
    if s.touches (r.image r.first) (r.image r.last) then
      points (r.members.filter fun c => s.hasCode (r.image c))
    else []

/-- The set with all characters that are equal to one of it up to case. -/
def upToCase (s : CharSet) : CharSet :=
  let targets := s.folded
  ofRanges (s.ranges ++ targets.ranges ++ targets.unfolded)

/-! ## Classes with a name -/

/-- The characters of words. -/
def word : CharSet := ⟨wordRanges⟩

/-- The decimal digits. -/
def digit : CharSet := ⟨digitRanges⟩

/-- The blanks. -/
def blank : CharSet := ⟨blankRanges⟩

/-- The ASCII class of a name. -/
def ascii? (name : String) : Option CharSet :=
  let range (a b : Char) : Nat × Nat := (a.toNat, b.toNat)
  let upper := range 'A' 'Z'
  let lower := range 'a' 'z'
  let digits := range '0' '9'
  let ranges? : Option (List (Nat × Nat)) := match name with
    | "alnum" => some [digits, upper, lower]
    | "alpha" => some [upper, lower]
    | "ascii" => some [(0, 127)]
    | "blank" => some [(9, 9), (32, 32)]
    | "cntrl" => some [(0, 31), (127, 127)]
    | "digit" => some [digits]
    | "graph" => some [range '!' '~']
    | "lower" => some [lower]
    | "print" => some [range ' ' '~']
    | "punct" => some [range '!' '/', range ':' '@', (91, 96), (123, 126)]
    | "space" => some [(9, 13), (32, 32)]
    | "upper" => some [upper]
    | "word" => some [digits, upper, range '_' '_', lower]
    | "xdigit" => some [digits, range 'A' 'F', range 'a' 'f']
    | _ => none
  ranges?.map ofRanges

end CharSet

end FieldRules.Pattern
