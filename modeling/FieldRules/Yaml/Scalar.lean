import FieldRules.Json.Reader
import FieldRules.Yaml.Spot

/-!
# YAML scalars

A scalar stands in double quotes, in single quotes or plain.  Blanks around a line break do not
count.  A single line feed inside a scalar is a space, and of several line feeds in a row the first
does not count; the separators that break lines are kept.  In double quotes a backslash escapes, and
a line break behind it does not count at all.

The mark of a document's beginning or end may not stand in quotes, and ends a plain scalar.

## Main definitions

* `quoted?` — reads a scalar in quotes.
* `plain?` — reads a plain scalar inside brackets.
-/

namespace FieldRules.Yaml

/-- What stands for the blanks and line breaks of a gap. -/
def gapText (blanks : List Char) : List Char → List Char
  | [] => blanks
  | ['\n'] => [' ']
  | '\n' :: more => more
  | breaks => breaks

/-- Reads the hexadecimal code of a character. -/
def code? (digits : Nat) (s : List Spot) : Option (Char × List Spot) := do
  let code := (s.take digits).map Spot.char
  if code.length < digits then none
  else
    let n ← code.foldlM (fun n c => (Json.Reader.hexValue? c).map (n * 16 + ·)) 0
    if n < 0xD800 ∨ (0xE000 ≤ n ∧ n < 0x110000) then some (Char.ofNat n, s.drop digits) else none

/-- Reads what follows a backslash, which is no line break. -/
def escape? : List Spot → Option (Char × List Spot)
  | [] => none
  | s :: rest =>
    let plain (n : Nat) : Option (Char × List Spot) := some (Char.ofNat n, rest)
    match s.char with
    | '0' => plain 0
    | 'a' => plain 7
    | 'b' => plain 8
    | 't' => plain 9
    | '\t' => plain 9
    | 'n' => plain 10
    | 'v' => plain 11
    | 'f' => plain 12
    | 'r' => plain 13
    | 'e' => plain 27
    | ' ' => plain 32
    | '"' => plain 34
    | '/' => plain 47
    | '\\' => plain 92
    | 'N' => plain 0x85
    | '_' => plain 0xA0
    | 'L' => plain 0x2028
    | 'P' => plain 0x2029
    | 'x' => code? 2 rest
    | 'u' => code? 4 rest
    | 'U' => code? 8 rest
    | _ => none

/-- Reads the rest of a scalar after its opening quote.  The first argument bounds the number of
spots still to be read. -/
def quotedBody? (quote : Char) : Nat → List Spot → Option (List Char × List Spot)
  | 0, _ => none
  | _, [] => none
  | fuel + 1, s :: rest =>
    let goOn (text : List Char) (rest : List Spot) : Option (List Char × List Spot) :=
      (quotedBody? quote fuel rest).map fun r => (text ++ r.1, r.2)
    if isDocumentMarker (s :: rest) then none
    else if isBlank s.char || isBreak s.char then
      let (blanks, breaks, after) := takeGap (s :: rest)
      goOn (gapText blanks breaks) after
    else if s.char == quote then
      match rest with
      | next :: more =>
        if quote == '\'' && next.char == quote then goOn [quote] more else some ([], rest)
      | [] => some ([], rest)
    else if quote == '"' && s.char == '\\' then
      match rest with
      | next :: more =>
        if isBreak next.char then
          let (_, breaks, after) := takeGap more
          goOn breaks after
        else do
          let (c, rest) ← escape? rest
          goOn [c] rest
      | [] => none
    else goOn [s.char] rest

/-- Reads a scalar after its opening quote. -/
def quoted? (quote : Char) (s : List Spot) : Option (String × List Spot) :=
  (quotedBody? quote (s.length + 1) s).map fun r => (String.ofList r.1, r.2)

/-- A character that has a meaning of its own at the beginning of a node. -/
def isIndicator (c : Char) : Bool :=
  ['-', '?', ':', ',', '[', ']', '\x7b', '\x7d', '#', '&', '*', '!', '|', '>', '\'', '"', '%', '@',
    '\x60'].contains c

/-- Whether a plain scalar begins here. -/
def startsPlain : List Spot → Bool
  | [] => false
  | s :: rest =>
    if s.char == '-' then !endsWord rest
    else !(isIndicator s.char || isBlank s.char || isBreak s.char)

/-- A character that ends a plain scalar inside brackets. -/
def endsPlain (c : Char) : Bool :=
  c == ',' || c == '[' || c == ']' || c == '\x7b' || c == '\x7d'

/-- Reads the rest of a plain scalar inside brackets.  A colon ends it before a blank, and may not
stand before a character that ends it.  The first argument bounds the number of spots still to be
read. -/
def plainBody? : Nat → List Spot → Option (List Char × List Spot)
  | 0, _ => none
  | _, [] => some ([], [])
  | fuel + 1, s :: rest =>
    let goOn (rest : List Spot) : Option (List Char × List Spot) :=
      (plainBody? fuel rest).map fun r => (s.char :: r.1, r.2)
    if isDocumentMarker (s :: rest) then some ([], s :: rest)
    else if isBlank s.char || isBreak s.char then
      let (blanks, breaks, after) := takeGap (s :: rest)
      if (after.head?.map fun next => next.char == '#').getD true then some ([], after)
      else do
        let (text, rest) ← plainBody? fuel after
        some (if text.isEmpty then [] else gapText blanks breaks ++ text, rest)
    else if s.char == ':' then
      if endsWord rest then some ([], s :: rest)
      else if (rest.head?.map fun next => endsPlain next.char || next.char == '?').getD false then none
      else goOn rest
    else if endsPlain s.char then some ([], s :: rest)
    else goOn rest

/-- Reads a plain scalar inside brackets. -/
def plain? (s : List Spot) : Option (String × List Spot) :=
  (plainBody? (s.length + 1) s).map fun r => (String.ofList r.1, r.2)

end FieldRules.Yaml
