import FieldRules.Constraint.Signature
import FieldRules.Error

/-!
# Constraint expressions

The written form of constraints.  An expression is a list of terms separated by commas, all of which
must hold.  A term is a name, a name with arguments, or a connective around a list of terms; a name
that begins with `$` refers to a constraint that was declared before.  A validation tag is a list of
expressions separated by semicolons, each for the scope that is named in front of it with a colon,
or for every scope.

## Main definitions

* `Vocabulary` — the declared constraints.
* `Vocabulary.parse` — reads an expression.
* `Vocabulary.parseTag` — reads a validation tag into its groups.
-/

namespace FieldRules

/-- The sign in front of the names of declared constraints, functions and constants. -/
def sigil : Char := '$'

/-- A name with the sign in front of it, which is not doubled. -/
def withSigil (name : String) : String :=
  if name.toList.head? = some sigil then name else String.ofList (sigil :: name.toList)

/-- The scope of what holds in every scope. -/
def wildcard : String := "*"

/-- The constraints that expressions can refer to by name. -/
structure Vocabulary where
  named : Dict Constraint

namespace Constraint

/-- A character of a constraint's name. -/
def isNameChar (c : Char) : Bool := c.isAlphanum || c == '_' || c == sigil

/-- A character of the scope in front of a group. -/
def isScopeChar (c : Char) : Bool := c.isAlphanum || c == '_' || c == '-' || c == '*'

/-- Reads the scope in front of a group and its colon, if they are there. -/
def scopeMark? (s : List Char) : Option (String × List Char) :=
  let s := Text.trimStart s
  let scope := s.takeWhile isScopeChar
  match Text.trimStart (s.dropWhile isScopeChar) with
  | ':' :: rest => if scope.isEmpty then none else some (String.ofList scope, rest)
  | _ => none

/-- The constraint of a name and its arguments.  A fault is placed after the arguments. -/
def ofName (vocabulary : Vocabulary) (name : String) (raw : List RawArgument) (rest : List Char) :
    Except Fault Constraint :=
  let plain (c : Constraint) : Except Fault Constraint :=
    if raw.isEmpty then .ok c else .error ⟨.noArguments name, rest⟩
  match shortcuts.lookup name with
  | some c => plain c
  | none =>
    if name.toList.head? = some sigil then
      match vocabulary.named.find? name with
      | some c => plain c
      | none => .error ⟨.unknown name, rest⟩
    else
      match signatures.find? fun s => s.name == name with
      | none => .error ⟨.unknown name, rest⟩
      | some s =>
        match s.build raw with
        | .ok c => .ok c
        | .error text => .error ⟨.badArguments text, rest⟩

/-- Joins the operands of a connective. -/
def connect (name : String) (operands : List Constraint) : Constraint :=
  if name = "and" then conj operands
  else if name = "or" then disj operands
  else .not (conj operands)

mutual

/-- Reads a list of terms up to the end, to a semicolon, or to the closing parenthesis when the list
is inside one; the terminator stays.  The first argument bounds the steps still to be taken. -/
def readList (vocabulary : Vocabulary) (isInner : Bool) :
    Nat → List Char → Except Fault (List Constraint × List Char)
  | 0, s => .error ⟨.emptyExpression, s⟩
  | fuel + 1, s =>
    let s := Text.trimStart s
    match s with
    | [] => .error ⟨.emptyExpression, []⟩
    | c :: _ =>
      if isInner ∧ c = ')' then .ok ([], s)
      else if c = ';' then .error ⟨.emptyExpression, s⟩
      else readTerms vocabulary isInner fuel s

/-- Reads one term and, after a comma, those that follow. -/
def readTerms (vocabulary : Vocabulary) (isInner : Bool) :
    Nat → List Char → Except Fault (List Constraint × List Char)
  | 0, s => .error ⟨.emptyExpression, s⟩
  | fuel + 1, s => do
    let (term, rest) ← readTerm vocabulary fuel s
    let rest := Text.trimStart rest
    match rest with
    | [] => if isInner then .error ⟨.unbalanced, []⟩ else .ok ([term], [])
    | c :: more =>
      if c = ',' then
        let next := Text.trimStart more
        match next with
        | [] => .error ⟨.trailingComma, []⟩
        | d :: _ =>
          if d = ';' ∨ (isInner ∧ d = ')') then .error ⟨.trailingComma, next⟩
          else do
            let (terms, rest) ← readTerms vocabulary isInner fuel next
            .ok (term :: terms, rest)
      else if isInner ∧ c = ')' then .ok ([term], rest)
      else if ¬ isInner ∧ c = ';' then .ok ([term], rest)
      else .error ⟨.unexpected c, rest⟩

/-- Reads one term. -/
def readTerm (vocabulary : Vocabulary) : Nat → List Char → Except Fault (Constraint × List Char)
  | 0, s => .error ⟨.nameExpected, s⟩
  | fuel + 1, s =>
    let name := String.ofList (s.takeWhile isNameChar)
    let rest := s.dropWhile isNameChar
    if name.isEmpty then .error ⟨.nameExpected, rest⟩
    else
      match Text.trimStart rest with
      | '(' :: body =>
        if connectives.contains name then do
          let (operands, rest) ← readList vocabulary true fuel body
          .ok (connect name operands, rest.drop 1)
        else do
          let (raw, rest) ← scanArguments .start body
          let c ← ofName vocabulary name raw rest
          .ok (c, rest)
      | rest => do
        let c ← ofName vocabulary name [] rest
        .ok (c, rest)

end

/-- How many steps a reader may take on a text: three for each character, and three more. -/
def stepBound (s : List Char) : Nat := 3 * s.length + 3

/-- Reads an expression up to the end or a semicolon. -/
def readExpression (vocabulary : Vocabulary) (s : List Char) :
    Except Fault (Constraint × List Char) := do
  let (terms, rest) ← readList vocabulary false (stepBound s) s
  .ok (conj terms, rest)

/-- Reads the groups of a tag.  The first argument bounds their number. -/
def readGroups (vocabulary : Vocabulary) :
    Nat → List Char → Except Fault (List (String × Constraint))
  | 0, s => .error ⟨.emptyExpression, s⟩
  | fuel + 1, s => do
    let (scope, body) := (scopeMark? s).getD (wildcard, s)
    let (c, rest) ← readExpression vocabulary body
    match rest with
    | [] => .ok [(scope, c)]
    | ';' :: rest => do
      let groups ← readGroups vocabulary fuel rest
      .ok ((scope, c) :: groups)
    | d :: rest => .error ⟨.unexpected d, rest⟩

end Constraint

namespace Vocabulary

/-- No declared constraints. -/
def empty : Vocabulary := ⟨[]⟩

/-- Declares a constraint under a name. -/
def register (v : Vocabulary) (name : String) (c : Constraint) : Vocabulary :=
  ⟨v.named.insert (withSigil name) c⟩

/-- Whether a name is declared. -/
def isRegistered (v : Vocabulary) (name : String) : Bool := v.named.contains (withSigil name)

/-- The configuration error of a fault in a text. -/
def faultError (source : String) (f : Constraint.Fault) : Error :=
  .configuration (f.message source)

/-- Reads an expression, which must be the whole text. -/
def parse (v : Vocabulary) (source : String) : Except Error Constraint :=
  match Constraint.readExpression v source.toList with
  | .error f => .error (faultError source f)
  | .ok (c, []) => .ok c
  | .ok (_, d :: rest) => .error (faultError source ⟨.unexpected d, d :: rest⟩)

/-- Reads a validation tag into its groups, each with its scope.  A blank tag has none. -/
def parseTag (v : Vocabulary) (source : String) : Except Error (List (String × Constraint)) :=
  let s := source.toList
  if (Text.trimStart s).isEmpty then .ok []
  else
    match Constraint.readGroups v (s.length + 1) s with
    | .error f => .error (faultError source f)
    | .ok groups => .ok groups

end Vocabulary

end FieldRules
