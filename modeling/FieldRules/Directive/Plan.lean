import FieldRules.Directive.Basic

/-!
# Plans

What a directive comes to once each of its configurations has been given a meaning: for each scope
what holds there, and what holds in every other scope.  A scope's aliases select what the scope
selects, unless they have something of their own.

## Main definitions

* `Plan` — the plan of a directive, over any kind of meaning.
* `Plan.ofScopes` — the plan of what holds in each scope.
* `Directive.plan` — gives each configuration its meaning, in order.
-/

namespace FieldRules

/-- What is to be done, by scope. -/
inductive Plan (α : Type) where
  | nothing
  | scoped (byScope : Dict α) (fallback : Option α)
  | compose (op : Composition) (left right : Plan α)

namespace Plan

variable {α : Type}

/-- Whether there is nothing to do in any scope. -/
def isNothing : Plan α → Bool
  | .nothing => true
  | _ => false

/-- Adds the aliases of each scope, except those that have something of their own. -/
def addAliases (aliases : Aliases) (byScope : Dict α) : Dict α :=
  aliases.targets.foldl (fun d e =>
    match byScope.find? e.2 with
    | some a => if d.contains e.1 then d else d.insert e.1 a
    | none => d) byScope

/-- The plan of what holds in each scope; what holds in every scope is the fallback. -/
def ofScopes (aliases : Aliases) (scopes : Dict α) : Plan α :=
  let fallback := scopes.find? wildcard
  let byScope := scopes.erase wildcard
  if byScope.isEmpty then
    match fallback with
    | some a => .scoped [] (some a)
    | none => .nothing
  else .scoped (addAliases aliases byScope) fallback

/-- Two plans one after the other; nothing when neither has anything to do. -/
def composed (op : Composition) (left right : Plan α) : Plan α :=
  if left.isNothing && right.isNothing then .nothing else .compose op left right

/-- What holds in a scope, of what holds by scope and otherwise. -/
def choose (byScope : Dict α) (fallback : Option α) (scope : String) : Option α :=
  match byScope.find? scope with
  | some a => some a
  | none => fallback

end Plan

namespace Directive

variable {m : Type → Type} [Monad m] {α : Type}

/-- Gives the segments their meanings, in order.  The last segment of a scope counts, also when it
means nothing. -/
def meanings (aliases : Aliases) (leaf : String → String → m (Option α)) :
    Dict α → List Segment → m (Dict α)
  | scopes, [] => pure scopes
  | scopes, s :: rest => do
    let scope := aliases.resolve s.scope
    match ← leaf scope s.config with
    | some a => meanings aliases leaf (scopes.insert scope a) rest
    | none => meanings aliases leaf (scopes.erase scope) rest

/-- The plan of segments. -/
def segmentsPlan (aliases : Aliases) (leaf : String → String → m (Option α))
    (segments : List Segment) : m (Plan α) := do
  let scopes ← meanings aliases leaf [] segments
  pure (Plan.ofScopes aliases scopes)

/-- The configuration error of a composition with a blank side. -/
def oneSidedError (text : String) (op : Composition) : Error :=
  .configuration ("directive \"" ++ text ++ "\": '" ++ String.singleton op.sign
    ++ "' needs a directive on both sides")

/-- The plan of a directive.  Each configuration is given its meaning by `leaf`, from left to
right, under the scope that its scope stands for. -/
def plan [MonadExceptOf Error m] (aliases : Aliases) (leaf : String → String → m (Option α)) :
    Directive → m (Plan α)
  | .segments ss => segmentsPlan aliases leaf ss
  | .oneSided text op => throw (oneSidedError text op)
  | .compose left op right => do
    let left ← segmentsPlan aliases leaf left
    let right ← plan aliases leaf right
    pure (Plan.composed op left right)

end Directive

end FieldRules
