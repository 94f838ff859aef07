import FieldRules.Pattern.Basic
import FieldRules.Pattern.ByteRanges
import Std.Data.HashMap

/-!
# The size of a pattern

A pattern is run by two automata over the bytes of a text, one from the left and one from the right,
and each of them has to stay within a limit of memory when its counted repetitions are written out.
An automaton is a list of states.  A state takes a fixed number of bytes, a state that chooses by
the next byte takes some more for every range that it tells apart, and one that forks takes some
more for every way out.  The automaton from the left also marks where groups begin and end.

States are numbered in the order in which they are added, and parts of the automaton of a set of
characters are shared: a state that would be the same as an earlier one of the same set is not added
again, as long as the earlier one is remembered.  Only so many are remembered, each in the slot that
its hash names, so that the numbers of the states have a say in what is shared.  Hence the memory is
counted here by adding the states one by one.

## Main definitions

* `Memory` — the memory taken so far.
* `build` — how much a pattern adds to it.
* `isWithinLimit` — whether both automata of a pattern stay within the limit.
-/

namespace FieldRules.Pattern

/-! ## Memory -/

/-- The memory that an automaton takes: its states, and the bytes they take beyond their fixed
size. -/
structure Memory where
  states : Nat
  extra : Nat
  deriving DecidableEq, Repr

namespace Memory

/-- The fixed size of a state in bytes. -/
def stateSize : Nat := 32

/-- The bytes for a range of bytes that a state tells apart. -/
def rangeSize : Nat := 8

/-- The bytes for a way out of a state that forks. -/
def forkSize : Nat := 4

/-- The most bytes that an automaton may take. -/
def limit : Nat := 10485760

/-- The bytes taken. -/
def used (m : Memory) : Nat := m.states * stateSize + m.extra

/-- Adds states and bytes beyond their fixed size, unless they are too many. -/
def grow (states extra : Nat) (m : Memory) : Option Memory :=
  let more : Memory := ⟨m.states + states, m.extra + extra⟩
  if more.used ≤ limit then some more else none

/-- What stays within the limit leads to no more than it. -/
theorem used_le_of_grow {states extra : Nat} {m n : Memory} (h : m.grow states extra = some n) :
    n.used ≤ limit := by
  simp only [grow] at h
  split at h
  case isTrue hle => exact Option.some.inj h ▸ hle
  case isFalse => contradiction

end Memory

/-- The direction in which an automaton reads. -/
inductive Direction where
  | forward
  | backward
  deriving DecidableEq, Repr

/-- Part of an automaton: what it adds to the memory, and how many bytes its last state takes in
addition when it is wired to the next part. -/
structure Fragment where
  add : Memory → Option Memory
  exit : Nat

namespace Fragment

/-- A part of a known size. -/
def ofSize (states extra : Nat) : Fragment := ⟨Memory.grow states extra, 0⟩

/-- One part wired to another. -/
def append (a b : Fragment) : Fragment :=
  ⟨fun m => do b.add (← (← a.add m).grow 0 a.exit), b.exit⟩

/-- A part that is added a number of times. -/
def addTimes (a : Fragment) : Nat → Memory → Option Memory
  | 0, m => some m
  | count + 1, m =>
    match a.add m with
    | some m =>
      match m.grow 0 a.exit with
      | some m => addTimes a count m
      | none => none
    | none => none

/-- A part exactly so many times in a row, where none at all is a state of its own. -/
def power (a : Fragment) : Nat → Fragment
  | 0 => ofSize 1 0
  | count + 1 => ⟨fun m => do a.add (← a.addTimes count m), a.exit⟩

/-- A part that may be left out. -/
def optional (a : Fragment) : Fragment :=
  ⟨fun m => do
    let m ← a.add (← m.grow 1 0)
    m.grow 1 (2 * Memory.forkSize + a.exit), 0⟩

/-- A part any number of times, where it cannot be empty. -/
def loop (a : Fragment) : Fragment :=
  ⟨fun m => do
    let m ← a.add (← m.grow 1 0)
    m.grow 0 (Memory.forkSize + a.exit), Memory.forkSize⟩

/-- A part any number of times, where it can be empty. -/
def guardedLoop (a : Fragment) : Fragment :=
  ⟨fun m => do
    let m ← a.add m
    m.grow 3 (4 * Memory.forkSize + a.exit), 0⟩

/-- A part at least once. -/
def repeatedLoop (a : Fragment) : Fragment :=
  ⟨fun m => do
    let m ← a.add m
    m.grow 1 (Memory.forkSize + a.exit), Memory.forkSize⟩

/-- A part that is followed by itself up to so many times. -/
def upTo (a : Fragment) (start : Fragment) (count : Nat) : Fragment :=
  let round : Fragment :=
    ⟨fun m => do a.add (← m.grow 1 (2 * Memory.forkSize)), a.exit⟩
  ⟨fun m => do
    let m ← (← (← start.add m).grow 1 0).grow 0 start.exit
    round.addTimes count m, 0⟩

/-- A choice between parts. -/
def choice : List Fragment → Fragment
  | [] => ofSize 1 0
  | [a] => a
  | a :: b :: rest =>
    let branch (m : Memory) (c : Fragment) : Option Memory := do
      (← c.add m).grow 0 (Memory.forkSize + c.exit)
    ⟨fun m => do
      let m ← branch (← branch m a) b
      rest.foldlM branch (← m.grow 2 0), 0⟩

end Fragment

/-! ## Sets of characters -/

/-- The slot of some numbers in a table: their hash modulo the size of the table. -/
def slot (size : UInt64) (numbers : List Nat) : Nat :=
  let hash := numbers.foldl (fun h n => (h ^^^ UInt64.ofNat n) * 1099511628211) 14695981039346656037
  (hash % size).toNat

/-- What is remembered about the states of a set: by slot, what a state was made of, and its
number. -/
abbrev Slots := Std.HashMap Nat (List Nat × Nat)

/-- The number of the state that is made of something: a remembered one, or a new one that is
remembered from now on. -/
def shared (size : UInt64) (numbers : List Nat) (extra : Nat) (slots : Slots) (m : Memory) :
    Option (Nat × Slots × Memory) :=
  let place := slot size numbers
  let fresh : Option (Nat × Slots × Memory) := do
    some (m.states, slots.insert place (numbers, m.states), ← m.grow 1 extra)
  match slots[place]? with
  | some (known, state) => if known = numbers then some (state, slots, m) else fresh
  | none => fresh

/-- How many states are remembered from the left. -/
def forwardSlots : UInt64 := 10000

/-- How many states are remembered from the right. -/
def backwardSlots : UInt64 := 1000

/-- Adds the states that read some parts of a set from the left, and answers the number of the
first; the parts have at most `depth` bytes, and lead to the state `target`. -/
def addForward (target : Nat) :
    Nat → List ByteRanges.Part → Slots → Memory → Option (Nat × Slots × Memory)
  | 0, _, slots, m => some (target, slots, m)
  | depth + 1, parts, slots, m => do
    let groups := parts.splitBy fun p q => p.head? == q.head?
    let (ways, slots, m) ← groups.foldlM (fun (ways, slots, m) group => do
      match group with
      | (range :: tail) :: _ =>
        if tail.isEmpty then some (ways ++ [range.1, range.2, target], slots, m)
        else
          let (next, slots, m) ← addForward target depth (group.map List.tail) slots m
          some (ways ++ [range.1, range.2, next], slots, m)
      | _ => some (ways, slots, m)) (([] : List Nat), slots, m)
    shared forwardSlots ways (groups.length * Memory.rangeSize) slots m

/-- Adds the states that read a part of a set from the right, the leading byte last. -/
def addBackward (target : Nat) :
    ByteRanges.Part → Slots → Memory → Option (Slots × Memory)
  | [], slots, m => (m.grow 0 Memory.forkSize).map (slots, ·)
  | range :: rest, slots, m => do
    let (state, slots, m) ← shared backwardSlots [target, range.1, range.2] 0 slots m
    addBackward state rest slots m

/-- The automaton of a set of characters. -/
def buildSet (d : Direction) (s : CharSet) : Fragment :=
  if s.ranges.all fun r => r.2 < 0x80 then .ofSize 2 (s.ranges.length * Memory.rangeSize)
  else
    let parts := s.ranges.flatMap ByteRanges.ofRange
    match d with
    | .forward =>
      ⟨fun m => do
        let (_, _, m) ← addForward m.states 4 parts ∅ (← m.grow 1 0)
        some m, 0⟩
    | .backward =>
      ⟨fun m => do
        let target := m.states + 1
        let (_, m) ← parts.foldlM (fun (slots, m) part => addBackward target part slots m)
          ((∅ : Slots), ← m.grow 2 0)
        some m, 0⟩

/-! ## Choices between literals -/

/-- The bytes of a literal in the order in which an automaton reads them. -/
def bytesOf (d : Direction) (chars : List Char) : List Nat :=
  let bytes := chars.flatMap fun c => ByteRanges.encode c.toNat
  match d with
  | .forward => bytes
  | .backward => bytes.reverse

/-- The literals of a choice between literals only. -/
def literals? : Pattern → Option (List (List Char))
  | .alt (.literal chars) rest => do
    match rest with
    | .literal last => some [chars, last]
    | rest => some (chars :: (← rest.literals?))
  | _ => none

/-- Splits words where one of them ends, so that an earlier end takes precedence over what follows.
An end that follows another before any word goes on makes no difference. -/
def segments (words : List (List Nat)) : List (List (List Nat)) :=
  let step (st : List (List (List Nat)) × List (List Nat) × Bool) (word : List Nat) :=
    let (done, current, begun) := st
    if !word.isEmpty then (done, word :: current, true)
    else if !begun && !done.isEmpty then st
    else (current.reverse :: done, [], begun)
  let (done, current, _) := words.foldl step ([], [], false)
  (current.reverse :: done).reverse

/-- Words by their first number: what follows it in each. -/
def tailsByHead (words : List (List Nat)) : List (List (List Nat)) :=
  let heads := (words.filterMap List.head?).eraseDups
  heads.map fun h => words.filterMap fun w => if w.head? == some h then some w.tail else none

/-- The states and extra bytes of the tree of some words, which share their beginnings; the first
argument bounds the lengths of the words. -/
def treeSize : Nat → List (List Nat) → Nat × Nat
  | 0, _ => (0, 0)
  | fuel + 1, words =>
    let parts := segments words
    let filled := parts.filter fun p => !p.isEmpty
    let sizes := filled.flatMap fun p =>
      let tails := tailsByHead p
      let own := if tails.length = 1 then 0 else tails.length * Memory.rangeSize
      (1, own) :: (tails.filter fun t => t.any fun w => !w.isEmpty).map (treeSize fuel)
    let forks := filled.length + (parts.length - 1)
    (1 + (sizes.map Prod.fst).sum, forks * Memory.forkSize + (sizes.map Prod.snd).sum)

/-- The automaton of a choice between words. -/
def buildWords (words : List (List Nat)) : Fragment :=
  let size := treeSize ((words.map List.length).foldl max 0 + 1) words
  .ofSize (size.1 + 1) size.2

/-! ## Patterns -/

/-- The automaton of a repetition. -/
def buildTimes (low : Nat) (high? : Option Nat) (canBeEmpty : Bool) (a : Fragment) : Fragment :=
  match low, high? with
  | 0, some 1 => a.optional
  | 0, none => if canBeEmpty then a.guardedLoop else a.loop
  | 1, none => a.repeatedLoop
  | low + 2, none => (a.power (low + 1)).append a.repeatedLoop
  | low, some high => if low = high then a.power low else a.upTo (a.power low) (high - low)

mutual

/-- The automaton of a pattern. -/
def build (d : Direction) : Pattern → Fragment
  | .empty => .ofSize 1 0
  | .literal chars => .ofSize (byteCount chars) 0
  | .one s => buildSet d s
  | .place _ => .ofSize 1 0
  | .seq p q =>
    match d with
    | .forward => (build d p).append (build d q)
    | .backward => (build d q).append (build d p)
  | .alt p q =>
    match literals? (.alt p q) with
    | some words => buildWords (words.map (bytesOf d))
    | none => .choice (build d p :: buildBranches d q)
  | .times low high? _ p => buildTimes low high? (p.minLength?.getD 0 == 0) (build d p)
  | .group _ p =>
    match d with
    | .forward => ((Fragment.ofSize 1 0).append (build d p)).append (.ofSize 1 0)
    | .backward => build d p
  termination_by p => (sizeOf p, 0)

/-- The automata of the branches of a choice. -/
def buildBranches (d : Direction) : Pattern → List Fragment
  | .alt p q => build d p :: buildBranches d q
  | p => [build d p]
  termination_by p => (sizeOf p, 1)

end

/-- Whether every match begins at the beginning of the text, or for the other direction ends at its
end, as far as the form of a pattern shows it. -/
def isAnchored (d : Direction) : Pattern → Bool
  | .place a => a == match d with
    | .forward => Assertion.textStart
    | .backward => Assertion.textEnd
  | .times low _ _ p => 0 < low && isAnchored d p
  | .group _ p => isAnchored d p
  | .seq p q =>
    match d with
    | .forward => isAnchored d p || (p.maxLength? == some 0 && isAnchored d q)
    | .backward => isAnchored d q || (q.maxLength? == some 0 && isAnchored d p)
  | .alt p q => isAnchored d p && isAnchored d q
  | _ => false

/-- What an automaton begins with: a loop over all bytes, unless matches begin at one place. -/
def buildPrelude (isAnchored : Bool) : Fragment :=
  if isAnchored then .ofSize 1 0 else (Fragment.ofSize 2 Memory.rangeSize).loop

/-- The whole automaton: the pattern is a group of its own, and a last state tells of a match. -/
def buildWhole (d : Direction) (p : Pattern) : Fragment :=
  ((buildPrelude (p.isAnchored d)).append (build d (.group 0 p))).append (.ofSize 1 0)

/-- Whether both automata of a pattern stay within the limit. -/
def isWithinLimit (p : Pattern) : Bool :=
  ((buildWhole .forward p).add ⟨0, 0⟩).isSome && ((buildWhole .backward p).add ⟨0, 0⟩).isSome

end FieldRules.Pattern
