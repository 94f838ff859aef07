import FieldRules.Tool.Validate
import FieldRules.Reference
import FieldRules.Proofs.Constraint.Tag
import FieldRules.Proofs.Directive.Plan

/-!
# Two ways to check a value

A tag can be checked against a value directly: the group that counts in a scope is selected from the
groups, and its constraint is tested.  The validate tool checks a field of a record: it makes a plan
of the groups, and runs it in the active scope.  The first way resolves the scope that is asked for,
and the second one looks for the scope itself before it looks for the scope that it stands for.  So
they agree unless a group can be for a scope that is an alias of another.

## Main definitions

* `Tool.accepts` — what the validate tool makes of a field of a record.
* `Tool.lastGroup?` — the constraint of the last group for a scope.

## Main statements

* `Tool.selectGroup?_eq` — the selection from the groups, as lookups by scope.
* `Tool.accepts_eq` — what the tool makes of a flat field, as lookups by scope.
* `Tool.accepts_eq_passes_iff` — when the two ways agree on all tags and values.
-/

namespace FieldRules.Tool

variable {a : Aliases} {groups : List (String × Constraint)} {scope : String}

/-- Whether the validate tool lets a field of a record pass: there is nothing to do for it, or it
does not fail. -/
def accepts (registry : Registry) (field : Field) (tag : String) (r : Record) (ctx : Context) :
    Except Error Bool :=
  (validate.applier registry field (some tag)).map fun applier? =>
    match applier? with
    | none => true
    | some applier => (applier field r ctx).result.isOk

/-- Whether a value passes the constraint that counts, if there is one. -/
def passesOptional (c? : Option Constraint) (v : Value) : Bool :=
  (c?.map fun c => c.test v).getD true

theorem passes_eq (a : Aliases) (groups : List (String × Constraint)) (scope : String) (v : Value) :
    passes a groups scope v = passesOptional (selectGroup? a groups scope) v := by
  rw [passes, passesOptional]
  cases selectGroup? a groups scope <;> rfl

/-- The constraint of the last group for a scope, where the scopes of the groups are resolved. -/
def lastGroup? (a : Aliases) (groups : List (String × Constraint)) (scope : String) :
    Option Constraint :=
  (groups.reverse.find? fun g => a.resolve g.1 == scope).map Prod.snd

theorem find?_constraintsByScope_eq (a : Aliases) (groups : List (String × Constraint)) :
    (constraintsByScope a groups).find? = lastGroup? a groups := by
  funext scope
  rw [constraintsByScope, Dict.find?_ofList, ← List.map_reverse, List.find?_map, Option.map_map]
  rfl

/-- The selection from the groups looks for what the scope stands for, then for every scope. -/
theorem selectGroup?_eq (a : Aliases) (groups : List (String × Constraint)) (scope : String) :
    selectGroup? a groups scope =
      ((constraintsByScope a groups).find? (a.resolve scope)).or
        ((constraintsByScope a groups).find? wildcard) := by
  have hlast : ∀ wanted, (groups.reverse.find? fun g => a.resolve g.1 == wanted).map Prod.snd =
      (constraintsByScope a groups).find? wanted :=
    fun wanted => (congrFun (find?_constraintsByScope_eq a groups) wanted).symm
  rw [selectGroup?]
  simp only [hlast]
  cases (constraintsByScope a groups).find? (a.resolve scope) <;> rfl

theorem isOk_checkApplier {field : Field} {r : Record} {v : Value} (hv : field.read? r = some v)
    (c : Constraint) (ctx : Context) : (checkApplier c field r ctx).result.isOk = c.test v := by
  simp only [checkApplier, hv]
  cases c.test v <;> rfl

/-- What the tool makes of a flat field is decided by what governs the active scope. -/
theorem accepts_eq {registry : Registry} (ha : Dict.Sorted registry.aliases.targets) {field : Field}
    (hflat : field.isNested = false) {tag : String}
    (htag : registry.vocabulary.parseTag tag = .ok groups) {r : Record} {v : Value}
    (hv : field.read? r = some v) (ctx : Context) :
    accepts registry field tag r ctx =
      .ok (passesOptional (Plan.governing registry.aliases
        (constraintsByScope registry.aliases groups) ctx.scope) v) := by
  have happlier : accepts registry field tag r ctx =
      .ok (match (validatePlan registry.aliases groups).applier? checkApplier with
        | none => true
        | some applier => (applier field r ctx).result.isOk) := by
    simp only [accepts, validate, hflat, Bool.false_eq_true, if_false, htag, Except.map]
  rw [happlier, Plan.applier?, validatePlan]
  cases hnothing : (Plan.ofScopes registry.aliases
      (constraintsByScope registry.aliases groups)).isNothing with
  | true =>
    rw [Plan.governing_of_isNothing hnothing]
    rfl
  | false =>
    simp only [Bool.false_eq_true, if_false]
    rw [Plan.run_ofScopes ha]
    cases hgoverning : Plan.governing registry.aliases
        (constraintsByScope registry.aliases groups) ctx.scope with
    | none => rfl
    | some c =>
      rw [Option.elim_some, isOk_checkApplier hv]
      rfl

/-! ## Agreement -/

/-- A group can be for a scope only if some name that can stand in front of it is resolved to it. -/
theorem find?_constraintsByScope {key : String} {c : Constraint}
    (hnames : ∀ g ∈ groups, Constraint.IsScopeName g.1)
    (h : (constraintsByScope a groups).find? key = some c) :
    ∃ name, Constraint.IsScopeName name ∧ a.resolve name = key := by
  rw [constraintsByScope, Dict.find?_ofList] at h
  obtain ⟨e, he, -⟩ := Option.map_eq_some_iff.1 h
  have hkey := List.find?_some he
  obtain ⟨g, hg, rfl⟩ := List.mem_map.1 (List.mem_reverse.1 (List.mem_of_find?_eq_some he))
  exact ⟨g.1, hnames g hg, by simpa using hkey⟩

/-- Where no group can be for an alias itself, what governs a scope is what is selected. -/
theorem governing_eq_selectGroup? (ha : a.WellFormed)
    (hnames : ∀ g ∈ groups, Constraint.IsScopeName g.1)
    (hscope : ∀ target, a.targets.find? scope = some target →
      ∀ name, Constraint.IsScopeName name → a.targets.find? name ≠ some scope) :
    Plan.governing a (constraintsByScope a groups) scope = selectGroup? a groups scope := by
  rw [selectGroup?_eq, Plan.governing]
  cases htarget : a.targets.find? scope with
  | none =>
    rw [Aliases.resolve_of_find?_none htarget, Option.bind_none, Option.or_none, Plan.own]
    by_cases hwild : wildcard = scope
    · rw [if_pos hwild, ← hwild, Option.none_or]
      cases (constraintsByScope a groups).find? wildcard <;> rfl
    · rw [if_neg hwild]
  | some target =>
    have hname := (ha.name_ne htarget).symm
    have htargetName := (ha.scope_ne htarget).symm
    have hnone : (constraintsByScope a groups).find? scope = none := by
      cases hfind : (constraintsByScope a groups).find? scope with
      | none => rfl
      | some c =>
        obtain ⟨name, hwritten, hresolve⟩ := find?_constraintsByScope hnames hfind
        exact absurd (Aliases.find?_of_resolve_eq htarget hresolve)
          (hscope target htarget name hwritten)
    rw [Aliases.resolve_of_find? htarget, Option.bind_some, Plan.own, Plan.own, if_neg hname,
      if_neg htargetName, hnone, Option.none_or]

/-- **Checking a value directly and checking it in a field agree in a scope, for all tags, fields
and values, exactly when the scope is no alias or no name that can stand in front of a group stands
for it.** -/
theorem accepts_eq_passes_iff {registry : Registry} (ha : registry.aliases.Reachable)
    (scope : String) :
    (∀ (tag : String) (groups : List (String × Constraint)) (field : Field) (r : Record)
      (ctx : Context) (v : Value), registry.vocabulary.parseTag tag = .ok groups →
      field.isNested = false → field.read? r = some v → ctx.scope = scope →
      accepts registry field tag r ctx = .ok (passes registry.aliases groups scope v)) ↔
    ∀ target, registry.aliases.targets.find? scope = some target →
      ∀ name, Constraint.IsScopeName name →
        registry.aliases.targets.find? name ≠ some scope := by
  have hvalid := ha.wellFormed
  constructor
  · intro hall target htarget name hname hchain
    -- the tag that lets nothing pass for the alias, and a field with an empty text
    have hread : (Field.untagged "color" .text false).read? Reference.widget.zero =
        some (.text "") := rfl
    have hagree := hall (Vocabulary.nilFor name) _ (Field.untagged "color" .text false)
      Reference.widget.zero (Context.empty.setScope scope) _
      (registry.vocabulary.parseTag_nilFor hname) rfl hread rfl
    have hgroup : ∀ key, (constraintsByScope registry.aliases [(name, .nil)]).find? key =
        if scope = key then some .nil else none := by
      intro key
      simp [constraintsByScope, Dict.ofList, Dict.find?_insert, Dict.find?,
        Aliases.resolve_of_find? hchain]
    have hwild := (hvalid.name_ne htarget).symm
    have hgoverning : Plan.governing registry.aliases
        (constraintsByScope registry.aliases [(name, .nil)]) scope = some .nil := by
      simp [Plan.governing, Plan.own, hwild, hgroup]
    have hselected : selectGroup? registry.aliases [(name, .nil)] scope = none := by
      rw [selectGroup?_eq, Aliases.resolve_of_find? htarget, hgroup, hgroup,
        if_neg (hvalid.irreflexive htarget), if_neg hwild.symm, Option.or_none]
    rw [accepts_eq hvalid.sorted rfl (registry.vocabulary.parseTag_nilFor hname) hread, passes_eq,
      hselected] at hagree
    change Except.ok (passesOptional (Plan.governing _ _ scope) _) = _ at hagree
    rw [hgoverning] at hagree
    cases hagree
  · intro hscope tag groups field r ctx v htag hflat hv hctx
    have hnames := Vocabulary.isScopeName_of_parseTag htag
    rw [accepts_eq hvalid.sorted hflat htag hv, hctx,
      governing_eq_selectGroup? hvalid hnames hscope, passes_eq]

/-- The registry with nothing but a table of aliases. -/
def withAliases (a : Aliases) : Registry := { Registry.empty with aliases := a }

/-- With a single alias the two ways agree in every scope. -/
theorem accepts_eq_passes_of_single :
    Aliases.Reachable ⟨[("a", "b")]⟩ ∧
    ∀ (scope tag : String) (groups : List (String × Constraint)) (field : Field) (r : Record)
      (ctx : Context) (v : Value),
      (withAliases ⟨[("a", "b")]⟩).vocabulary.parseTag tag = .ok groups →
      field.isNested = false → field.read? r = some v → ctx.scope = scope →
      accepts (withAliases ⟨[("a", "b")]⟩) field tag r ctx =
        .ok (passes ⟨[("a", "b")]⟩ groups scope v) := by
  refine ⟨Aliases.reachable_single, fun scope => ?_⟩
  refine (@accepts_eq_passes_iff (withAliases ⟨[("a", "b")]⟩) Aliases.reachable_single scope).2
    fun target htarget name _ hname => ?_
  simp [withAliases, Dict.find?] at htarget hname
  rw [← htarget.1] at hname
  simp at hname

/-- In a chain of two aliases a group for the first one is a group for the scope in the middle to
the validate tool only. -/
theorem accepts_ne_passes_of_chain :
    Aliases.Reachable ⟨[("a", "b"), ("b", "c")]⟩ ∧
    (Field.untagged "color" .text false).read? Reference.widget.zero = some (.text "") ∧
    ∃ groups, Vocabulary.empty.parseTag "a:nil" = .ok groups ∧
      accepts (withAliases ⟨[("a", "b"), ("b", "c")]⟩) (Field.untagged "color" .text false) "a:nil"
        Reference.widget.zero (Context.empty.setScope "b") = .ok false ∧
      passes ⟨[("a", "b"), ("b", "c")]⟩ groups "b" (.text "") = true := by
  refine ⟨Aliases.reachable_chain, rfl, _, rfl, rfl, rfl⟩

end FieldRules.Tool
