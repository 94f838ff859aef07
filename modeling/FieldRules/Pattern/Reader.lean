import FieldRules.Json.Reader
import FieldRules.Pattern.Size
import FieldRules.Text.Blank
import FieldRules.Text.CharClass

/-!
# Reading patterns

The written form of patterns: literals, the dot, classes in brackets with ranges, nested classes,
named ASCII classes and the set operations, escapes, the anchors, groups of every kind, alternation,
repetition, and the flags `i`, `m`, `s`, `x`, `U`, `u`, `R` for the rest of a group or for a group of
their own.  What would need more than a search with places — back-references and looking around — is
refused.  So is what nests too deep, where groups, repetitions, classes and the operations in them,
and sequences and choices of more than one thing count a level each.  A pattern that is well formed
may still be too large when its counted repetitions are written out.

## Main definitions

* `Pattern.read` — the pattern that a text denotes, or what is wrong with the text.
-/

namespace FieldRules.Pattern

/-- What is wrong with the text of a pattern. -/
inductive Fault where
  | malformed
  | tooLarge
  deriving DecidableEq, Repr

/-- What the flags in force change about reading. -/
structure Flags where
  ignoreCase : Bool := false
  multiLine : Bool := false
  dotAll : Bool := false
  extended : Bool := false
  carriageReturn : Bool := false
  swapGreed : Bool := false

/-- The state of the reader: what is left, the flags in force, the group names given so far, and the
number of groups so far. -/
structure Reader where
  rest : List Char
  flags : Flags
  names : List String
  groups : Nat

/-- A pattern with the number of levels at which its written form nests. -/
structure Draft where
  pattern : Pattern
  depth : Nat

/-- The greatest depth. -/
def maxDepth : Nat := 250

/-- What an escape or a plain character stands for. -/
inductive Primitive where
  | char (c : Char)
  | set (s : CharSet)
  | place (a : Assertion)

namespace Reader

/-- Drops blanks and comments, which run from `#` to the end of the line. -/
def skipIgnored (inComment : Bool) : List Char → List Char
  | [] => []
  | c :: rest =>
    if inComment then skipIgnored (c != '\n') rest
    else if c == '#' then skipIgnored true rest
    else if Text.isBlank c then skipIgnored false rest
    else c :: rest

/-- The characters that are left, from the first one that counts. -/
def skip (extended : Bool) (s : List Char) : List Char :=
  if extended then skipIgnored false s else s

/-- Splits off the leading characters of a kind, with what is ignored between and behind them. -/
def spanOf (kind : Char → Bool) (extended inComment : Bool) : List Char → List Char × List Char
  | [] => ([], [])
  | c :: rest =>
    if inComment then spanOf kind extended (c != '\n') rest
    else if kind c then
      let (more, rest) := spanOf kind extended false rest
      (c :: more, rest)
    else if extended && c == '#' then spanOf kind extended true rest
    else if extended && Text.isBlank c then spanOf kind extended false rest
    else ([], c :: rest)

/-- Where nothing is ignored, the characters of the kind that come first, and what is left. -/
theorem spanOf_plain (kind : Char → Bool) (s : List Char) :
    spanOf kind false false s = (s.takeWhile kind, s.dropWhile kind) := by
  induction s with
  | nil => rfl
  | cons c rest ih =>
    by_cases h : kind c = true
    · simp [spanOf, h, ih]
    · simp [spanOf, h]

/-! ## Escapes -/

/-- A character with a meaning of its own somewhere in a pattern. -/
def isMeta (c : Char) : Bool :=
  c == '\\' || c == '.' || c == '+' || c == '*' || c == '?' || c == '(' || c == ')' || c == '|'
    || c == '[' || c == ']' || c == '\x7b' || c == '\x7d' || c == '^' || c == '$' || c == '#'
    || c == '&' || c == '-' || c == '~'

/-- A character that a backslash leaves as it is. -/
def isEscapable (c : Char) : Bool :=
  isMeta c || (c.toNat < 128 && !c.isAlphanum && c != '<' && c != '>')

/-- The character of a code point, unless it is a surrogate or out of range. -/
def scalar? (n : Nat) : Option Char :=
  if n < 0xD800 ∨ (0xE000 ≤ n ∧ n < 0x110000) then some (Char.ofNat n) else none

/-- The number of hexadecimal digits. -/
def hexNumber? (digits : List Char) : Option Nat :=
  if digits.isEmpty then none
  else digits.foldl (fun n c => do some ((← n) * 16 + (← Json.Reader.hexValue? c))) (some 0)

/-- Takes a number of characters, and what is ignored in front of each. -/
def takeExactly? (extended : Bool) : Nat → List Char → Option (List Char × List Char)
  | 0, s => some ([], s)
  | count + 1, s =>
    match skip extended s with
    | [] => none
    | c :: rest => (takeExactly? extended count rest).map fun r => (c :: r.1, r.2)

/-- Reads what follows `\x`, `\u` or `\U`: a fixed count of digits, or any in braces. -/
def hexEscape? (count : Nat) (extended : Bool) (s : List Char) : Option (Char × List Char) :=
  match skip extended s with
  | '\x7b' :: rest => do
    match spanOf (fun c => (Json.Reader.hexValue? c).isSome) extended false rest with
    | (digits, '\x7d' :: rest) => some (← scalar? (← hexNumber? digits), rest)
    | _ => none
  | rest => do
    let (digits, rest) ← takeExactly? extended count rest
    some (← scalar? (← hexNumber? digits), rest)

/-- A character that the name of a special boundary may hold. -/
def isBoundaryNameChar (c : Char) : Bool := c.isAlpha || c == '-'

/-- Reads what may follow `\b`: the name of a special boundary in braces.  Braces around something
else are a counted repetition. -/
def boundary? (extended : Bool) (s : List Char) : Option (Assertion × List Char) :=
  match s with
  | '\x7b' :: more =>
    match skip extended more with
    | [] => none
    | c :: rest =>
      if !isBoundaryNameChar c then some (.wordBoundary, s)
      else
        match spanOf isBoundaryNameChar extended false (c :: rest) with
        | (name, '\x7d' :: rest) =>
          match String.ofList name with
          | "start" => some (.wordStart, rest)
          | "end" => some (.wordEnd, rest)
          | "start-half" => some (.wordStartHalf, rest)
          | "end-half" => some (.wordEndHalf, rest)
          | _ => none
        | _ => none
  | _ => some (.wordBoundary, s)

/-- Reads what follows a backslash. -/
def escape? (extended : Bool) : List Char → Option (Primitive × List Char)
  | [] => none
  | c :: rest =>
    let plain (n : Nat) : Option (Primitive × List Char) := some (.char (Char.ofNat n), rest)
    if isEscapable c then some (.char c, rest)
    else match c with
      | 'd' => some (.set .digit, rest)
      | 'D' => some (.set (.compl .digit), rest)
      | 's' => some (.set .blank, rest)
      | 'S' => some (.set (.compl .blank), rest)
      | 'w' => some (.set .word, rest)
      | 'W' => some (.set (.compl .word), rest)
      | 'a' => plain 7
      | 'f' => plain 12
      | 't' => plain 9
      | 'n' => plain 10
      | 'r' => plain 13
      | 'v' => plain 11
      | 'x' => (hexEscape? 2 extended rest).map fun r => (.char r.1, r.2)
      | 'u' => (hexEscape? 4 extended rest).map fun r => (.char r.1, r.2)
      | 'U' => (hexEscape? 8 extended rest).map fun r => (.char r.1, r.2)
      | 'A' => some (.place .textStart, rest)
      | 'z' => some (.place .textEnd, rest)
      | 'B' => some (.place .noWordBoundary, rest)
      | '<' => some (.place .wordStart, rest)
      | '>' => some (.place .wordEnd, rest)
      | 'b' => (boundary? extended rest).map fun r => (.place r.1, r.2)
      | _ => none

/-! ## Classes -/

/-- Closes a set under letter case when the flag asks for it. -/
def foldSet (flags : Flags) (s : CharSet) : CharSet :=
  if flags.ignoreCase then s.upToCase else s

/-- Takes the complement when the flag asks for it. -/
def negateSet (negated : Bool) (s : CharSet) : CharSet := if negated then s.compl else s

/-- Reads a named ASCII class after its opening bracket; `none` when the bracket opens a class
instead. -/
def asciiClass? (flags : Flags) : List Char → Option (CharSet × List Char)
  | ':' :: rest =>
    let (negated, rest) := match rest with
      | '^' :: more => (true, more)
      | more => (false, more)
    let name := rest.takeWhile (· != ':')
    match rest.drop name.length with
    | ':' :: ']' :: rest =>
      (CharSet.ascii? (String.ofList name)).map fun s => (negateSet negated (foldSet flags s), rest)
    | _ => none
  | _ => none

/-- Reads one character or escape of a class. -/
def classItem? (extended : Bool) : List Char → Option (Primitive × List Char)
  | [] => none
  | '\\' :: rest => escape? extended rest
  | c :: rest => some (.char c, rest)

/-- Reads an item of a class: a character, an escape, or a range between two characters. -/
def classRange? (extended : Bool) (s : List Char) : Option (CharSet × List Char) := do
  let (first, rest) ← classItem? extended s
  let rest := skip extended rest
  let alone : Option (CharSet × List Char) := match first with
    | .char c => some (CharSet.single c, rest)
    | .set s => some (s, rest)
    | .place _ => none
  match rest with
  | [] => none
  | '-' :: more =>
    match skip extended more with
    | [] => none
    | ']' :: _ => alone
    | '-' :: _ => alone
    | more => do
      let (last, rest) ← classItem? extended more
      match first, last with
      | .char a, .char b =>
        if a.toNat ≤ b.toNat then some (⟨[(a.toNat, b.toNat)]⟩, rest) else none
      | _, _ => none
  | _ => alone

/-- The items of a class read so far: their ranges, their number, and the depth of the deepest. -/
structure ClassDraft where
  ranges : List (Nat × Nat)
  count : Nat
  depth : Nat

namespace ClassDraft

/-- No items. -/
def nil : ClassDraft := ⟨[], 0, 0⟩

/-- Adds an item. -/
def push (d : ClassDraft) (s : CharSet) (depth : Nat) : ClassDraft :=
  ⟨s.ranges ++ d.ranges, d.count + 1, max d.depth depth⟩

/-- How deep the items nest together, where several of them are a level. -/
def total (d : ClassDraft) : Nat := if d.count < 2 then d.depth else d.depth + 1

end ClassDraft

/-- What stands before a set operation, and the operation. -/
structure Operand where
  combine : CharSet → CharSet → CharSet
  left : CharSet
  depth : Nat

/-- The set of the items after an operation, if there is one, and its depth. -/
def finishSet (flags : Flags) (operand? : Option Operand) (d : ClassDraft) : CharSet × Nat :=
  let right := CharSet.ofRanges d.ranges
  match operand? with
  | none => (right, d.total)
  | some o => (o.combine o.left (foldSet flags right), max o.depth d.total + 1)

/-- Reads what may stand at the very beginning of a class: the complement sign, and hyphens and one
closing bracket that stand for themselves. -/
def classOpening? (extended : Bool) (s : List Char) : Option (Bool × ClassDraft × List Char) :=
  let s := skip extended s
  let (negated, s) := match s with
    | '^' :: rest => (true, skip extended rest)
    | rest => (false, rest)
  let alone (d : ClassDraft) (c : Char) : ClassDraft := d.push (CharSet.single c) 0
  match spanOf (· == '-') extended false s with
  | (hyphen :: more, rest) => some (negated, (hyphen :: more).foldl alone .nil, rest)
  | ([], []) => none
  | ([], ']' :: rest) => some (negated, alone .nil ']', rest)
  | ([], rest) => some (negated, .nil, rest)

mutual

/-- Reads a class after its opening bracket; answers its set and the depth of what it holds. -/
def class? (flags : Flags) : Nat → List Char → Option ((CharSet × Nat) × List Char)
  | 0, _ => none
  | fuel + 1, s => do
    let (negated, opening, rest) ← classOpening? flags.extended s
    let ((set, depth), rest) ← classBody? flags fuel none opening rest
    some ((negateSet negated (foldSet flags set), depth), rest)

/-- Reads the items of a class up to its closing bracket. -/
def classBody? (flags : Flags) :
    Nat → Option Operand → ClassDraft → List Char → Option ((CharSet × Nat) × List Char)
  | 0, _, _, _ => none
  | fuel + 1, operand?, draft, s =>
    let operation (combine : CharSet → CharSet → CharSet) (rest : List Char) :=
      let (left, depth) := finishSet flags operand? draft
      classBody? flags fuel (some ⟨combine, foldSet flags left, depth⟩) .nil rest
    match skip flags.extended s with
    | [] => none
    | ']' :: rest => some (finishSet flags operand? draft, rest)
    | '&' :: '&' :: rest => operation CharSet.inter rest
    | '-' :: '-' :: rest => operation CharSet.diff rest
    | '~' :: '~' :: rest => operation CharSet.symmDiff rest
    | '[' :: rest =>
      match asciiClass? flags rest with
      | some (item, rest) => classBody? flags fuel operand? (draft.push item 0) rest
      | none => do
        let ((item, depth), rest) ← class? flags fuel rest
        classBody? flags fuel operand? (draft.push item (depth + 1)) rest
    | rest => do
      let (item, rest) ← classRange? flags.extended rest
      classBody? flags fuel operand? (draft.push item 0) rest

end

/-! ## Groups -/

/-- Sets one flag.  Matching is always over Unicode text, so `u` can only be set. -/
def setFlag? (flags : Flags) (on : Bool) : Char → Option Flags
  | 'i' => some { flags with ignoreCase := on }
  | 'm' => some { flags with multiLine := on }
  | 's' => some { flags with dotAll := on }
  | 'x' => some { flags with extended := on }
  | 'R' => some { flags with carriageReturn := on }
  | 'U' => some { flags with swapGreed := on }
  | 'u' => if on then some flags else none
  | _ => none

/-- Reads flags up to the `:` or `)` that ends them, which stays.  A flag may stand once, and a
minus sign once and before a flag. -/
def flags? (flags : Flags) (on : Bool) (seen : List Char) (afterSign : Bool) :
    List Char → Option (Flags × List Char)
  | [] => none
  | c :: rest =>
    if c == ':' || c == ')' then if afterSign then none else some (flags, c :: rest)
    else if c == '-' then if on then flags? flags false seen true rest else none
    else if seen.contains c then none
    else match setFlag? flags on c with
      | some flags => flags? flags on (c :: seen) false rest
      | none => none

/-- A character of a group's name. -/
def isNameChar (first : Bool) (c : Char) : Bool :=
  c == '_' || (if first then Text.isAlphabetic c
    else Text.isAlphanumeric c || c == '.' || c == '[' || c == ']')

/-- Reads the name of a group and the angle bracket after it. -/
def groupName? (s : List Char) : Option (String × List Char) :=
  let name := s.takeWhile (· != '>')
  match name, s.drop name.length with
  | c :: more, _ :: rest =>
    if isNameChar true c && more.all (isNameChar false) then some (String.ofList name, rest) else none
  | _, _ => none

/-! ## Repetition -/

/-- Reads a count, which may have blanks around it. -/
def count? (extended : Bool) (s : List Char) : Option (Nat × List Char) :=
  let (digits, rest) := spanOf Char.isDigit extended false (s.dropWhile Text.isBlank)
  let n := Number.naturalOf digits
  if digits.isEmpty || 4294967296 ≤ n then none else some (n, rest.dropWhile Text.isBlank)

/-- Drops the mark that makes a repetition lazy, and answers whether the repetition is greedy. -/
def greed (flags : Flags) : List Char → Bool × List Char
  | '?' :: rest => (flags.swapGreed, rest)
  | s => (!flags.swapGreed, s)

/-- Repeats a draft. -/
def repeated (d : Draft) (low : Nat) (high? : Option Nat) (greedy : Bool) : Draft :=
  ⟨d.pattern.repeated low high? greedy, d.depth + 1⟩

/-- Reads a counted repetition after its opening brace. -/
def counted? (flags : Flags) (d : Draft) (s : List Char) : Option (Draft × List Char) := do
  let extended := flags.extended
  let finish (low : Nat) (high? : Option Nat) (rest : List Char) : Option (Draft × List Char) :=
    match rest with
    | '\x7d' :: rest =>
      if (high?.map fun n => decide (low ≤ n)).getD true then
        let (greedy, rest) := greed flags (skip extended rest)
        some (repeated d low high? greedy, rest)
      else none
    | _ => none
  let (low, rest) ← count? extended (skip extended s)
  match rest with
  | ',' :: rest =>
    match skip extended rest with
    | '\x7d' :: _ => finish low none (skip extended rest)
    | rest => do
      let (high, rest) ← count? extended rest
      finish low (some high) rest
  | rest => finish low (some low) rest

/-! ## Patterns -/

/-- The pattern of one character. -/
def literal (flags : Flags) (c : Char) : Pattern := ofSet (foldSet flags (CharSet.single c))

/-- The pattern of an escape or a plain character. -/
def primitive (flags : Flags) : Primitive → Pattern
  | .char c => literal flags c
  | .set s => ofSet s
  | .place a => .place a

/-- What the dot stands for. -/
def dot (flags : Flags) : Pattern :=
  let excluded :=
    if flags.dotAll then CharSet.empty
    else if flags.carriageReturn then .union (.single '\n') (.single '\r')
    else .single '\n'
  .one excluded.compl

/-- What `^` stands for. -/
def caret (flags : Flags) : Pattern :=
  if !flags.multiLine then .place .textStart
  else if flags.carriageReturn then .place .lineStartCR
  else .place .lineStart

/-- What `$` stands for. -/
def dollar (flags : Flags) : Pattern :=
  if !flags.multiLine then .place .textEnd
  else if flags.carriageReturn then .place .lineEndCR
  else .place .lineEnd

/-- How deep some parts nest together, where several of them are a level. -/
def depthOf (depths : List Nat) : Nat :=
  let deepest := depths.foldl max 0
  if depths.length < 2 then deepest else deepest + 1

/-- The sequence of some items, the last one first.  A change of flags stands as `none`; it is an
item like others and matches the empty text. -/
def sequenceOf (items : List (Option Draft)) : Draft :=
  let items := items.reverse
  ⟨.sequence ((items.filterMap id).map Draft.pattern),
    depthOf (items.map fun d? => (d?.map Draft.depth).getD 0)⟩

/-- The choice between some branches. -/
def choiceOf (branches : List Draft) : Draft :=
  ⟨.alternatives (branches.map Draft.pattern), depthOf (branches.map Draft.depth)⟩

mutual

/-- Reads alternatives up to a closing parenthesis or the end, neither of which is consumed. -/
def alternatives? : Nat → Reader → Option (List Draft × Reader)
  | 0, _ => none
  | fuel + 1, r => do
    let (d, r) ← items? fuel [] r
    match r.rest with
    | '|' :: rest =>
      let (ds, r) ← alternatives? fuel { r with rest := rest }
      some (d :: ds, r)
    | _ => some ([d], r)

/-- Reads the items of a sequence.  `done` holds those before, the last one first, where a change of
flags stands as `none`. -/
def items? : Nat → List (Option Draft) → Reader → Option (Draft × Reader)
  | 0, _, _ => none
  | fuel + 1, done, r =>
    let extended := r.flags.extended
    let push (d : Draft) (rest : List Char) := items? fuel (some d :: done) { r with rest := rest }
    let leaf (p : Pattern) (rest : List Char) := push ⟨p, 0⟩ rest
    let repeatLast (low : Nat) (high? : Option Nat) (rest : List Char) :=
      match done with
      | some d :: done =>
        let (greedy, rest) := greed r.flags rest
        if maxDepth ≤ d.depth then none
        else items? fuel (some (repeated d low high? greedy) :: done) { r with rest := rest }
      | _ => none
    match skip extended r.rest with
    | [] => some (sequenceOf done, { r with rest := [] })
    | ')' :: rest => some (sequenceOf done, { r with rest := ')' :: rest })
    | '|' :: rest => some (sequenceOf done, { r with rest := '|' :: rest })
    | '(' :: rest => do
      let (item, r) ← group? fuel { r with rest := skip extended rest }
      items? fuel (item :: done) r
    | '[' :: rest => do
      let ((set, depth), rest) ← class? r.flags (2 * rest.length + 2) rest
      push ⟨ofSet set, depth + 1⟩ rest
    | '*' :: rest => repeatLast 0 none rest
    | '+' :: rest => repeatLast 1 none rest
    | '?' :: rest => repeatLast 0 (some 1) rest
    | '\x7b' :: rest =>
      match done with
      | some d :: done => do
        let (d, rest) ← counted? r.flags d rest
        if maxDepth < d.depth then none
        else items? fuel (some d :: done) { r with rest := rest }
      | _ => none
    | '\\' :: rest => do
      let (p, rest) ← escape? extended rest
      leaf (primitive r.flags p) rest
    | '.' :: rest => leaf (dot r.flags) rest
    | '^' :: rest => leaf (caret r.flags) rest
    | '$' :: rest => leaf (dollar r.flags) rest
    | c :: rest => leaf (literal r.flags c) rest

/-- Reads a group after its opening parenthesis; a change of flags is no pattern. -/
def group? : Nat → Reader → Option (Option Draft × Reader)
  | 0, _ => none
  | fuel + 1, r =>
    let outer := r.flags
    let body (wrap : Pattern → Pattern) (r : Reader) : Option (Option Draft × Reader) := do
      let (ds, r) ← alternatives? fuel r
      let d := choiceOf ds
      match r.rest with
      | ')' :: rest => some (some ⟨wrap d.pattern, d.depth + 1⟩, { r with rest := rest, flags := outer })
      | _ => none
    let numbered (r : Reader) : Option (Option Draft × Reader) :=
      body (.group (r.groups + 1)) { r with groups := r.groups + 1 }
    let named (s : List Char) : Option (Option Draft × Reader) := do
      let (name, rest) ← groupName? s
      if r.names.contains name then none
      else numbered { r with rest := rest, names := name :: r.names }
    match r.rest with
    | '?' :: '=' :: _ => none
    | '?' :: '!' :: _ => none
    | '?' :: '<' :: '=' :: _ => none
    | '?' :: '<' :: '!' :: _ => none
    | '?' :: 'P' :: '<' :: rest => named rest
    | '?' :: '<' :: rest => named rest
    | '?' :: rest => do
      let (flags, rest) ← flags? r.flags true [] false rest
      match rest with
      | ':' :: rest => body id { r with rest := rest, flags := flags }
      | ')' :: after =>
        if r.rest.drop 1 == rest then none
        else some (none, { r with rest := after, flags := flags })
      | _ => none
    | _ => numbered r

end

/-- The draft that a whole text denotes. -/
def draft? (s : String) : Option Draft := do
  let chars := s.toList
  let (ds, r) ← alternatives? (4 * chars.length + 4) ⟨chars, {}, [], 0⟩
  let d := choiceOf ds
  if r.rest.isEmpty && d.depth ≤ maxDepth then some d else none

end Reader

/-- The pattern that a text denotes, or what is wrong with the text. -/
def read (s : String) : Except Fault Pattern :=
  match Reader.draft? s with
  | none => .error .malformed
  | some d => if d.pattern.isWithinLimit then .ok d.pattern else .error .tooLarge

end FieldRules.Pattern
