import FieldRules.Text.Blank

/-!
# Argument lists

The arguments of a constraint are separated by commas and end at the parenthesis that closes the
list.  A quoted argument stands for the text between its quotes, in which only the quote itself is
escaped.  A raw argument stands for its text without the blanks around it; in it a backslash makes a
comma, a parenthesis, a semicolon, a quote or a backslash stand for itself, every other backslash is
kept, and parentheses nest.

## Main definitions

* `scanArguments` — reads a list after its opening parenthesis.
* `Mistake`, `Fault` — what is wrong with an expression, and where.
-/

namespace FieldRules.Constraint

/-- What is wrong with an expression. -/
inductive Mistake where
  | unexpected (c : Char)
  | emptyExpression
  | trailingComma
  | unbalanced
  | nameExpected
  | noArguments (name : String)
  | unknown (name : String)
  | textAfterQuote
  | danglingEscape
  | openQuote
  /-- The arguments do not suit the constraint; the text says how. -/
  | badArguments (text : String)
  deriving DecidableEq

/-- How a mistake is told. -/
def Mistake.text : Mistake → String
  | .unexpected c => "unexpected '" ++ String.singleton c ++ "'"
  | .emptyExpression => "empty expression"
  | .trailingComma => "trailing ','"
  | .unbalanced => "unbalanced parentheses"
  | .nameExpected => "expected a constraint name"
  | .noArguments name => "'" ++ name ++ "' takes no arguments"
  | .unknown name => "unknown constraint '" ++ name ++ "'"
  | .textAfterQuote => "unexpected text after quoted argument"
  | .danglingEscape => "dangling escape"
  | .openQuote => "unterminated quote"
  | .badArguments text => text

/-- A mistake and what is left of the expression where it was met. -/
structure Fault where
  mistake : Mistake
  rest : List Char
  deriving DecidableEq

/-- How a fault in an expression is told. -/
def Fault.message (f : Fault) (source : String) : String :=
  if f.rest.isEmpty then f.mistake.text ++ " at end of expression '" ++ source ++ "'"
  else
    f.mistake.text ++ " at '" ++ String.ofList f.rest ++ "' in expression '" ++ source ++ "'"

/-- An argument as it was written. -/
structure RawArgument where
  text : List Char
  isQuoted : Bool
  deriving DecidableEq, Repr

/-- What has been read of a list: the arguments so far, the text of the one being read, the text
between its quotes if it was quoted, and how many parentheses are open in it. -/
structure ArgumentState where
  done : List RawArgument
  buffer : List Char
  quoted : Option (List Char)
  depth : Nat

namespace ArgumentState

/-- Nothing has been read. -/
def start : ArgumentState := ⟨[], [], none, 0⟩

/-- Adds a character to the argument being read. -/
def push (st : ArgumentState) (c : Char) : ArgumentState := { st with buffer := st.buffer ++ [c] }

/-- Whether nothing but blanks has been read of the argument. -/
def isBlank (st : ArgumentState) : Bool := (Text.trim st.buffer).isEmpty

/-- Ends the argument being read.  A list that is closed right away has no argument at all. -/
def finish (st : ArgumentState) (isLast : Bool) : List RawArgument :=
  match st.quoted with
  | some text => st.done ++ [⟨text, true⟩]
  | none =>
    if isLast && st.done.isEmpty && st.isBlank then []
    else st.done ++ [⟨Text.trim st.buffer, false⟩]

end ArgumentState

/-- The characters that a backslash makes stand for themselves in a raw argument. -/
def isEscapable (c : Char) : Bool :=
  c == ',' || c == '(' || c == ')' || c == ';' || c == '\\' || c == '\'' || c == '"'

mutual

/-- Reads arguments up to the parenthesis that closes the list, and answers them with what comes
after it. -/
def scanArguments (st : ArgumentState) :
    List Char → Except Fault (List RawArgument × List Char)
  | [] => .error ⟨.unbalanced, []⟩
  | c :: rest =>
    if st.quoted.isSome && c != ',' && c != ')' && !Text.isBlank c then
      .error ⟨.textAfterQuote, rest⟩
    else if c = '\\' then
      match rest with
      | [] => .error ⟨.danglingEscape, []⟩
      | e :: rest =>
        if isEscapable e then scanArguments (st.push e) rest
        else scanArguments ((st.push '\\').push e) rest
    else if (c = '\'' ∨ c = '"') ∧ st.isBlank then scanQuoted st c [] rest
    else if c = '(' then scanArguments { st.push c with depth := st.depth + 1 } rest
    else if c = ')' then
      if 0 < st.depth then scanArguments { st.push c with depth := st.depth - 1 } rest
      else .ok (st.finish true, rest)
    else if c = ',' ∧ st.depth = 0 then
      scanArguments ⟨st.finish false, [], none, 0⟩ rest
    else scanArguments (st.push c) rest

/-- Reads the text of a quoted argument up to its closing quote, and goes on with the list. -/
def scanQuoted (st : ArgumentState) (quote : Char) (text : List Char) :
    List Char → Except Fault (List RawArgument × List Char)
  | [] => .error ⟨.openQuote, []⟩
  | c :: rest =>
    if c = quote then scanArguments { st with quoted := some text } rest
    else if c = '\\' then
      match rest with
      | [] => .error ⟨.openQuote, []⟩
      | e :: more =>
        if e = quote then scanQuoted st quote (text ++ [quote]) more
        else scanQuoted st quote (text ++ [c]) (e :: more)
    else scanQuoted st quote (text ++ [c]) rest

end

end FieldRules.Constraint
