import FieldRules.Json.Basic
import FieldRules.Number.Layout

/-!
# JSON text

Two layouts of a document.  The compact one has no blanks; the wide one puts every item and every
entry on a line of its own, indented by two blanks a level, and keeps an empty array or object
closed up.  Both escape the quote, the backslash and the control characters, and nothing else.
-/

namespace FieldRules.Json

/-- The hexadecimal digit of a number below sixteen. -/
def hexDigit (n : Nat) : Char := Nat.digitChar n

/-- How a character stands inside a quoted string. -/
def escapeChar (c : Char) : List Char :=
  if c == '"' then ['\\', '"']
  else if c == '\\' then ['\\', '\\']
  else if c.toNat == 8 then ['\\', 'b']
  else if c.toNat == 12 then ['\\', 'f']
  else if c.toNat == 10 then ['\\', 'n']
  else if c.toNat == 13 then ['\\', 'r']
  else if c.toNat == 9 then ['\\', 't']
  else if c.toNat < 32 then
    ['\\', 'u', '0', '0', hexDigit (c.toNat / 16), hexDigit (c.toNat % 16)]
  else [c]

/-- A string in quotes. -/
def quoted (s : String) : String :=
  String.ofList ('"' :: s.toList.flatMap escapeChar ++ ['"'])

/-- A number. -/
def Number.text : Json.Number → String
  | .integer n _ => toString n
  | .float x _ => String.ofList x.jsonChars

mutual

/-- The compact layout. -/
def compact : Json → String
  | .null => "null"
  | .bool true => "true"
  | .bool false => "false"
  | .number n => n.text
  | .string s => quoted s
  | .array items => "[" ++ String.intercalate "," (compactItems items) ++ "]"
  | .object entries => "\x7b" ++ String.intercalate "," (compactEntries entries) ++ "\x7d"

def compactItems : List Json → List String
  | [] => []
  | j :: rest => compact j :: compactItems rest

def compactEntries : List (String × Json) → List String
  | [] => []
  | (k, j) :: rest => (quoted k ++ ":" ++ compact j) :: compactEntries rest

end

/-- A line break and the indentation of a level. -/
def newline (level : Nat) : String := String.ofList ('\n' :: List.replicate (2 * level) ' ')

/-- Lines between an opening and a closing bracket, or just the brackets around nothing. -/
def bracketed (opening closing : String) (level : Nat) (lines : List String) : String :=
  if lines.isEmpty then opening ++ closing
  else
    let inner := newline (level + 1)
    opening ++ inner ++ String.intercalate ("," ++ inner) lines ++ newline level ++ closing

mutual

/-- The wide layout of a document that stands at an indentation level. -/
def wide (level : Nat) : Json → String
  | .array items => bracketed "[" "]" level (wideItems (level + 1) items)
  | .object entries => bracketed "\x7b" "\x7d" level (wideEntries (level + 1) entries)
  | .null => "null"
  | .bool true => "true"
  | .bool false => "false"
  | .number n => n.text
  | .string s => quoted s

def wideItems (level : Nat) : List Json → List String
  | [] => []
  | j :: rest => wide level j :: wideItems level rest

def wideEntries (level : Nat) : List (String × Json) → List String
  | [] => []
  | (k, j) :: rest => (quoted k ++ ": " ++ wide level j) :: wideEntries level rest

end

end FieldRules.Json
