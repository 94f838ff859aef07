import FieldRules.Constraint.Expression
import FieldRules.Proofs.Text.Word

/-!
# The grammar of expressions

What an expression may look like and what it says, without a reader.  A text is first taken apart
into terms, by the grammar alone; then the terms are given their meaning, which is where unknown
names, wrong numbers of arguments and arguments that do not convert are refused.

## Main definitions

* `Term` — a term as it is written.
* `Term.Reads`, `Body`, `Listing` — the texts of a term, of the operands of a connective, and of a
  list.
* `Signature.Fits` — which arguments a signature takes.
* `Names` — what a name makes of its arguments.
* `Term.Means` — what a term says.
* `Denotes` — what an expression says.
-/

namespace FieldRules.Constraint

open Text (Blanks)

/-! ## Terms -/

/-- How a term joins the terms inside it. -/
inductive Connective where
  | and
  | or
  | not
  deriving DecidableEq, Repr

namespace Connective

/-- The name of a connective. -/
def name : Connective → String
  | .and => "and"
  | .or => "or"
  | .not => "not"

/-- What a connective makes of its operands. -/
def join : Connective → List Constraint → Constraint
  | .and, operands => conj operands
  | .or, operands => disj operands
  | .not, operands => .not (conj operands)

end Connective

/-- A term as it is written: a name with its arguments, or a connective with the terms inside. -/
inductive Term where
  | named (name : String) (arguments : List RawArgument)
  | joined (connective : Connective) (operands : List Term)

/-- A name: at least one letter, digit, underscore or sign. -/
abbrev IsName (s : List Char) : Prop := Text.IsWord isNameChar s

mutual

/-- The texts of a term.  What follows a term is a blank, a comma, a parenthesis or nothing at all,
so the name in front is always as long as it can be. -/
inductive Term.Reads : List Char → Term → Prop
  | bare {n : List Char} (hname : IsName n) : Term.Reads n (.named (String.ofList n) [])
  | call {n w body : List Char} {raw : List RawArgument} (hname : IsName n)
      (hplain : String.ofList n ∉ connectives) (hblank : Blanks w)
      (hbody : scanArguments .start (body ++ [')']) = .ok (raw, [])) :
      Term.Reads (n ++ (w ++ '(' :: (body ++ [')']))) (.named (String.ofList n) raw)
  | joined {k : Connective} {w body : List Char} {operands : List Term} (hblank : Blanks w)
      (hbody : Body body operands) :
      Term.Reads (k.name.toList ++ (w ++ '(' :: (body ++ [')']))) (.joined k operands)

/-- What stands between the parentheses of a connective. -/
inductive Body : List Char → List Term → Prop
  | blank {w : List Char} (hblank : Blanks w) : Body w []
  | listing {s : List Char} {terms : List Term} (hlist : Listing s terms) : Body s terms

/-- The texts of a list: at least one term, commas between them, blanks around each. -/
inductive Listing : List Char → List Term → Prop
  | last {w s w' : List Char} {t : Term} (hblank : Blanks w) (hterm : t.Reads s)
      (hblank' : Blanks w') : Listing (w ++ (s ++ w')) [t]
  | more {w s w' rest : List Char} {t : Term} {terms : List Term} (hblank : Blanks w)
      (hterm : t.Reads s) (hblank' : Blanks w') (hrest : Listing rest terms) :
      Listing (w ++ (s ++ (w' ++ ',' :: rest))) (t :: terms)

end

/-! ## Meanings -/

/-- Each argument is read by the parameter at its place, and those beyond the last parameter by the
last one. -/
structure Converts (parameters : List Parameter) (raw : List RawArgument)
    (arguments : List Argument) : Prop where
  length_eq : arguments.length = raw.length
  reads : ∀ i p r a, parameters[min i (parameters.length - 1)]? = some p → raw[i]? = some r →
    arguments[i]? = some a → readArgument p r = .ok a

/-- Arguments suit a signature when each of them converts and there are as many as it has
parameters; the last parameter of a variadic signature may be left out or repeated. -/
structure Signature.Fits (s : Signature) (raw : List RawArgument) (arguments : List Argument) :
    Prop where
  arity : if s.isVariadic then s.parameters.length ≤ raw.length + 1
    else raw.length = s.parameters.length
  converts : Converts s.parameters raw arguments

/-- What a name makes of its arguments. -/
inductive Names (vocabulary : Vocabulary) : String → List RawArgument → Constraint → Prop
  | shortcut {name : String} {c : Constraint} (h : (name, c) ∈ shortcuts) :
      Names vocabulary name [] c
  | declared {name : String} {c : Constraint} (hsigil : name.toList.head? = some sigil)
      (h : vocabulary.named.find? name = some c) : Names vocabulary name [] c
  | built {s : Signature} {raw : List RawArgument} {arguments : List Argument} {c : Constraint}
      (hs : s ∈ signatures) (hfits : s.Fits raw arguments)
      (hbuilt : construct s.name arguments = .ok c) : Names vocabulary s.name raw c

mutual

/-- What a term says. -/
inductive Term.Means (vocabulary : Vocabulary) : Term → Constraint → Prop
  | named {name : String} {raw : List RawArgument} {c : Constraint}
      (h : Names vocabulary name raw c) : Term.Means vocabulary (.named name raw) c
  | joined {k : Connective} {operands : List Term} {cs : List Constraint}
      (h : AllMean vocabulary operands cs) : Term.Means vocabulary (.joined k operands) (k.join cs)

/-- What terms say, in order. -/
inductive AllMean (vocabulary : Vocabulary) : List Term → List Constraint → Prop
  | nil : AllMean vocabulary [] []
  | cons {t : Term} {c : Constraint} {terms : List Term} {cs : List Constraint}
      (h : t.Means vocabulary c) (hs : AllMean vocabulary terms cs) :
      AllMean vocabulary (t :: terms) (c :: cs)

end

/-- What an expression says: the conjunction of its terms. -/
def Denotes (vocabulary : Vocabulary) (s : List Char) (c : Constraint) : Prop :=
  ∃ terms cs, Listing s terms ∧ AllMean vocabulary terms cs ∧ c = conj cs

end FieldRules.Constraint
