import FieldRules.Pattern.CharSet

/-!
# Patterns

A pattern is searched for in a text: it holds when some part of the text matches it.  How greedy a
repetition is and where groups stand makes no difference to that; it only counts when two patterns
are compared.

Patterns are built by the functions below, which bring them to a simple form: a sequence is not
part of a sequence, its literals are run together and nothing empty is left in it; alternatives are
not part of alternatives; a repetition repeats something else than once.

Matching works on sets of places, where a place lies between two characters or at an end of the
text.  A set is a list of flags, one for each place from left to right, and `reach` sends the set of
places where a match may begin to the set of places where it may end.  Every step is a pass over
the text, and a repetition stops as soon as another round changes nothing.

## Main definitions

* `Pattern` — the patterns.
* `Pattern.ofSet`, `Pattern.repeated`, `Pattern.sequence`, `Pattern.alternatives` — build them.
* `Pattern.reach` — where matches end.
* `Pattern.isFoundIn` — whether a text contains a match.
-/

namespace FieldRules

/-- What a pattern can ask of a place. -/
inductive Pattern.Assertion where
  | textStart
  | textEnd
  | lineStart
  | lineEnd
  | lineStartCR
  | lineEndCR
  | wordBoundary
  | noWordBoundary
  | wordStart
  | wordEnd
  | wordStartHalf
  | wordEndHalf
  deriving DecidableEq, Repr

/-- A pattern. -/
inductive Pattern where
  | empty
  /-- Some characters, one after the other. -/
  | literal (chars : List Char)
  /-- One character of a set. -/
  | one (set : Pattern.CharSet)
  | place (assertion : Pattern.Assertion)
  | seq (first second : Pattern)
  | alt (first second : Pattern)
  /-- A repetition, without an upper limit where `high?` is none. -/
  | times (low : Nat) (high? : Option Nat) (greedy : Bool) (p : Pattern)
  /-- A group with its number. -/
  | group (number : Nat) (p : Pattern)
  deriving DecidableEq, Repr

namespace Pattern

/-! ## Lengths -/

/-- The number of bytes of a character's code in UTF-8. -/
def codeSize (code : Nat) : Nat :=
  if code < 0x80 then 1 else if code < 0x800 then 2 else if code < 0x10000 then 3 else 4

/-- The number of bytes of some characters. -/
def byteCount : List Char → Nat
  | [] => 0
  | c :: rest => codeSize c.toNat + byteCount rest

/-- The least number of bytes of a match; none where nothing can match. -/
def minLength? : Pattern → Option Nat
  | .empty => some 0
  | .literal chars => some (byteCount chars)
  | .one set => set.ranges.head?.map fun r => codeSize r.1
  | .place _ => some 0
  | .seq p q => do some ((← p.minLength?) + (← q.minLength?))
  | .alt p q => do some (min (← p.minLength?) (← q.minLength?))
  | .times low _ _ p => p.minLength?.map (low * ·)
  | .group _ p => p.minLength?

/-- The greatest number of bytes of a match; none where there is no limit or nothing can match. -/
def maxLength? : Pattern → Option Nat
  | .empty => some 0
  | .literal chars => some (byteCount chars)
  | .one set => set.ranges.getLast?.map fun r => codeSize r.2
  | .place _ => some 0
  | .seq p q => do some ((← p.maxLength?) + (← q.maxLength?))
  | .alt p q => do some (max (← p.maxLength?) (← q.maxLength?))
  | .times _ high? _ p => do some ((← high?) * (← p.maxLength?))
  | .group _ p => p.maxLength?

/-! ## Building patterns -/

/-- The pattern of a set; where the set is a single character, that literal. -/
def ofSet (s : CharSet) : Pattern :=
  match s.ranges with
  | [(first, last)] => if first = last then .literal [Char.ofNat first] else .one s
  | _ => .one s

/-- A repetition of what matches nothing but the empty text adds nothing after the first time. -/
def capped (p : Pattern) (low : Nat) (high? : Option Nat) : Nat × Option Nat :=
  if p.maxLength? = some 0 then (min low 1, some (min (high?.getD 1) 1)) else (low, high?)

/-- Repeats a pattern at least `low` times, and at most `high?` times where there is a limit. -/
def repeated (p : Pattern) (low : Nat) (high? : Option Nat) (greedy : Bool) : Pattern :=
  match capped p low high? with
  | (0, some 0) => .empty
  | (1, some 1) => p
  | (low, high?) => .times low high? greedy p

/-- The items of a sequence. -/
def items : Pattern → List Pattern
  | .seq p q => p :: q.items
  | .empty => []
  | p => [p]

/-- Runs neighbouring literals together. -/
def joinLiterals : List Pattern → List Pattern
  | [] => []
  | .literal a :: rest =>
    match joinLiterals rest with
    | .literal b :: more => .literal (a ++ b) :: more
    | more => .literal a :: more
  | p :: rest => p :: joinLiterals rest

/-- The sequence of items in their simple form. -/
def ofItems : List Pattern → Pattern
  | [] => .empty
  | [p] => p
  | p :: rest => .seq p (ofItems rest)

/-- One pattern after the other. -/
def sequence (ps : List Pattern) : Pattern := ofItems (joinLiterals (ps.flatMap items))

/-- The branches of a choice. -/
def branches : Pattern → List Pattern
  | .alt p q => p :: q.branches
  | p => [p]

/-- The choice between branches in their simple form. -/
def ofBranches : List Pattern → Pattern
  | [] => .one .empty
  | [p] => p
  | p :: rest => .alt p (ofBranches rest)

/-- The single character of a literal that has no other. -/
def character? : Pattern → Option Char
  | .literal [c] => some c
  | _ => none

/-- The set of a pattern that asks for one character of it. -/
def set? : Pattern → Option CharSet
  | .one s => some s
  | _ => none

/-- The set of the single characters that all branches ask for, or the union of the sets that they
all ask for. -/
def commonSet? (ps : List Pattern) : Option CharSet :=
  match ps.mapM character? with
  | some cs => some (.ofRanges (CharSet.points (cs.map Char.toNat)))
  | none => (ps.mapM set?).map fun sets => .ofRanges (sets.flatMap CharSet.ranges)

/-- The items that two lists have in common at their beginning. -/
def commonStart : List Pattern → List Pattern → List Pattern
  | p :: ps, q :: qs => if p = q then p :: commonStart ps qs else []
  | _, _ => []

/-- The items with which every branch begins, where every branch is a sequence. -/
def sharedItems (ps : List Pattern) : List Pattern :=
  let lists := ps.map items
  if lists.any fun l => l.length < 2 then []
  else match lists with
    | [] => []
    | first :: rest => rest.foldl commonStart first

/-- A choice between two branches or more: a set, where they all are single characters or sets, and
otherwise what they share at their beginning, followed by the choice between what is left.  The
first argument bounds how often something shared is taken out. -/
def choice : Nat → List Pattern → Pattern
  | 0, ps => ofBranches ps
  | fuel + 1, ps =>
    match commonSet? ps with
    | some s => ofSet s
    | none =>
      match sharedItems ps with
      | [] => ofBranches ps
      | shared =>
        let left := ps.map fun p => ofItems (p.items.drop shared.length)
        sequence (shared ++ [choice fuel (left.flatMap branches)])

/-- The number of items in some patterns, read as sequences. -/
def itemCount : List Pattern → Nat
  | [] => 0
  | p :: rest => p.items.length + itemCount rest

/-- One of several patterns. -/
def alternatives (ps : List Pattern) : Pattern :=
  match ps.flatMap branches with
  | [p] => p
  | flat => choice (itemCount flat) flat

/-! ## Matching -/

/-- The characters on the two sides of a place. -/
structure Sides where
  before : Option Char
  after : Option Char

/-- The sides of every place of a text that follows a character. -/
def sidesFrom (before : Option Char) : List Char → List Sides
  | [] => [⟨before, none⟩]
  | c :: rest => ⟨before, some c⟩ :: sidesFrom (some c) rest

/-- Whether an assertion holds between two characters. -/
def Assertion.holds (a : Assertion) (s : Sides) : Bool :=
  let word (c : Option Char) : Bool := (c.map CharSet.word.contains).getD false
  match a with
  | .textStart => s.before.isNone
  | .textEnd => s.after.isNone
  | .lineStart => s.before.isNone || s.before == some '\n'
  | .lineEnd => s.after.isNone || s.after == some '\n'
  | .lineStartCR =>
    s.before.isNone || s.before == some '\n' || (s.before == some '\r' && s.after != some '\n')
  | .lineEndCR =>
    s.after.isNone || s.after == some '\r' || (s.after == some '\n' && s.before != some '\r')
  | .wordBoundary => word s.before != word s.after
  | .noWordBoundary => word s.before == word s.after
  | .wordStart => !word s.before && word s.after
  | .wordEnd => word s.before && !word s.after
  | .wordStartHalf => !word s.before
  | .wordEndHalf => !word s.after

/-- A set of places of a text. -/
abbrev Places := List Bool

/-- The union of two sets of places of one text. -/
def Places.union (a b : Places) : Places := List.zipWith or a b

/-- The places behind a character that a test admits and that stands at one of some places. -/
def Places.advance (admits : Char → Bool) (text : List Char) (places : Places) : Places :=
  false :: List.zipWith (fun c here => here && admits c) text places

/-- Adds what a step reaches until nothing is new; the first argument bounds the rounds. -/
def closure (step : Places → Places) : Nat → Places → Places
  | 0, places => places
  | fuel + 1, places =>
    let more := places.union (step places)
    if more = places then places else closure step fuel more

/-- Takes a step a number of times, or until it changes nothing. -/
def iterate (step : Places → Places) : Nat → Places → Places
  | 0, places => places
  | count + 1, places =>
    let next := step places
    if next = places then places else iterate step count next

/-- The places where matches end that begin in a set of places of the text. -/
def reach (text : List Char) : Pattern → Places → Places
  | .empty, places => places
  | .literal chars, places => chars.foldl (fun places c => places.advance (· == c) text) places
  | .one set, places => places.advance set.contains text
  | .place a, places => List.zipWith (fun s here => here && a.holds s) (sidesFrom none text) places
  | .seq p q, places => reach text q (reach text p places)
  | .alt p q, places => (reach text p places).union (reach text q places)
  | .times low high? _ p, places =>
    let rounds := match high? with
      | none => text.length + 1
      | some high => high - low
    closure (reach text p) rounds (iterate (reach text p) low places)
  | .group _ p, places => reach text p places

/-- Whether some part of a text matches. -/
def isFoundIn (p : Pattern) (text : String) : Bool :=
  let chars := text.toList
  (reach chars p (List.replicate (chars.length + 1) true)).any id

end Pattern

end FieldRules
