/-!
# Places in a YAML text

A text is read as a list of spots: its characters, each with the place where it stands.  Every way
to break a line is one spot.  The ASCII breaks and the next-line character all count as a line feed;
the line and paragraph separators also break lines and stay what they are.

## Main definitions

* `Spot.ofText?` — the spots of a text, all of whose characters must be printable.
* `skip` — drops what stands between the parts of a document.
* `takeGap` — takes the blanks and line breaks that stand inside a scalar.
-/

namespace FieldRules.Yaml

/-- A character and its place: the bytes in front of it, the line breaks in front of it, and the
characters of its line in front of it. -/
structure Spot where
  char : Char
  offset : Nat
  line : Nat
  column : Nat
  deriving DecidableEq, Repr

/-- A character that may stand in a document. -/
def isPrintable (c : Char) : Bool :=
  let n := c.toNat
  n == 9 || n == 10 || n == 13 || (32 ≤ n && n ≤ 126) || n == 0x85 || (0xA0 ≤ n && n ≤ 0xFFFD)
    || 0x10000 ≤ n

/-- A line break, where the ways to break a line have been told apart no further. -/
def isBreak (c : Char) : Bool := c == '\n' || c.toNat == 0x2028 || c.toNat == 0x2029

/-- A blank within a line. -/
def isBlank (c : Char) : Bool := c == ' ' || c == '\t'

namespace Spot

/-- The spots of some characters that stand at a place. -/
def layOut (offset line column : Nat) : List Char → List Spot
  | [] => []
  | '\r' :: '\n' :: rest => ⟨'\n', offset, line, column⟩ :: layOut (offset + 2) (line + 1) 0 rest
  | c :: rest =>
    let plain := if c == '\r' || c.toNat == 0x85 then '\n' else c
    let after := offset + c.utf8Size
    if isBreak plain then ⟨plain, offset, line, column⟩ :: layOut after (line + 1) 0 rest
    else ⟨plain, offset, line, column⟩ :: layOut after line (column + 1) rest

/-- The spots of a whole text.  The mark that may stand in front of all other characters is no spot,
but it takes up a column. -/
def ofChars : List Char → List Spot
  | [] => []
  | c :: rest => if c.toNat = 0xFEFF then layOut 0 0 1 rest else layOut 0 0 0 (c :: rest)

/-- The spots of a text. -/
def ofText? (s : String) : Option (List Spot) :=
  if s.toList.all isPrintable then some (ofChars s.toList) else none

end Spot

/-- Whether a line or the text ends here, or a blank follows. -/
def endsWord : List Spot → Bool
  | [] => true
  | s :: _ => isBlank s.char || isBreak s.char

/-- Whether three equal characters are a word of their own at the beginning of a line. -/
def isMarker (mark : Char) : List Spot → Bool
  | a :: b :: c :: rest =>
    a.column == 0 && a.char == mark && b.char == mark && c.char == mark && endsWord rest
  | _ => false

/-- Whether a mark of the beginning or end of a document stands here. -/
def isDocumentMarker (s : List Spot) : Bool := isMarker '-' s || isMarker '.' s

/-- Drops blanks, line breaks and comments.  Tabs are dropped inside brackets; outside of them only
while `tabs` allows it, which is up to the next line break. -/
def skip (inBrackets tabs inComment : Bool) : List Spot → List Spot
  | [] => []
  | s :: rest =>
    if isBreak s.char then skip inBrackets inBrackets false rest
    else if inComment then skip inBrackets tabs true rest
    else if s.char == ' ' || (tabs && s.char == '\t') then skip inBrackets tabs false rest
    else if s.char == '#' then skip inBrackets tabs true rest
    else s :: rest

/-- Drops what stands between the parts of a collection in brackets. -/
def skipInside (s : List Spot) : List Spot := skip true true false s

/-- Takes blanks and line breaks off the front: the blanks, the breaks, and what is left. -/
def takeGap : List Spot → List Char × List Char × List Spot
  | [] => ([], [], [])
  | s :: rest =>
    if isBreak s.char then
      let (blanks, breaks, after) := takeGap rest
      (blanks, s.char :: breaks, after)
    else if isBlank s.char then
      let (blanks, breaks, after) := takeGap rest
      (s.char :: blanks, breaks, after)
    else ([], [], s :: rest)

/-- A gap leaves no more than there was. -/
theorem length_takeGap_le (s : List Spot) : (takeGap s).2.2.length ≤ s.length := by
  induction s with
  | nil => simp [takeGap]
  | cons a rest ih =>
    simp only [takeGap]
    split
    · exact Nat.le_succ_of_le ih
    · split
      · exact Nat.le_succ_of_le ih
      · exact Nat.le_refl _

end FieldRules.Yaml
