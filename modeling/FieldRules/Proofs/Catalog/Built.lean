import FieldRules.Catalog
import FieldRules.Proofs.Directive.Aliases
import FieldRules.Proofs.Except

/-!
# The catalogs that can be built

A catalog is built from the empty one, or from the one with the tools that are always there, by
registrations.  So whatever the checks of the registrations guarantee holds of every catalog.

## Main definitions

* `Catalog.Built` — the catalogs that successful registrations build.

## Main statements

* `Catalog.Built.reachable_aliases` — the aliases of a catalog have been registered one by one.
* `Catalog.Built.sorted_tools` — its tools stand in the order of their keys.
* `Catalog.built_ofConfig` — the catalog of a configuration is one of them.
-/

namespace FieldRules.Catalog

/-- The catalogs that successful registrations build. -/
inductive Built : Catalog → Prop
  | empty : Built .empty
  | new : Built .new
  | registerPrincipals {c d : Catalog} {names : List String} :
      Built c → c.registerPrincipals names = .ok d → Built d
  | registerFunctions {c d : Catalog} {functions : List (String × FieldFunction)} :
      Built c → c.registerFunctions functions = .ok d → Built d
  | registerConstants {c : Catalog} (constants : List (String × Value)) :
      Built c → Built (c.registerConstants constants)
  | declareConstraint {c : Catalog} (name : String) (constraint : Constraint) :
      Built c → Built (c.declareConstraint name constraint)
  | declareExpression {c d : Catalog} {name source : String} :
      Built c → c.declareExpression name source = .ok d → Built d
  | addAlias {c d : Catalog} {name scope : String} :
      Built c → c.addAlias name scope = .ok d → Built d
  | setTool {c : Catalog} (key : String) (tool : Option Tool) : Built c → Built (c.setTool key tool)
  | requireId {c : Catalog} (isRequired : Bool) : Built c → Built (c.requireId isRequired)

variable {c d : Catalog}

/-- A declared expression declares the constraint that it is read as. -/
theorem exists_of_declareExpression {name source : String}
    (h : c.declareExpression name source = .ok d) :
    ∃ constraint, d = c.declareConstraint name constraint := by
  rw [declareExpression] at h
  split at h
  · cases h
    exact ⟨_, rfl⟩
  · cases h

/-! ## What a registration leaves as it is -/

theorem unchanged_registerPrincipals {names : List String} (h : c.registerPrincipals names = .ok d) :
    d.registry.aliases = c.registry.aliases ∧ d.tools = c.tools := by
  obtain ⟨principals, -, h⟩ := bind_eq_ok_iff.1 h
  cases h
  exact ⟨rfl, rfl⟩

theorem unchanged_registerFunctions {functions : List (String × FieldFunction)}
    (h : c.registerFunctions functions = .ok d) :
    d.registry.aliases = c.registry.aliases ∧ d.tools = c.tools := by
  obtain ⟨⟨⟩, -, h⟩ := bind_eq_ok_iff.1 h
  cases h
  exact ⟨rfl, rfl⟩

theorem unchanged_declareExpression {name source : String}
    (h : c.declareExpression name source = .ok d) :
    d.registry.aliases = c.registry.aliases ∧ d.tools = c.tools := by
  obtain ⟨constraint, rfl⟩ := exists_of_declareExpression h
  exact ⟨rfl, rfl⟩

/-- Only the aliases change when a name is made to stand for a scope. -/
theorem aliases_of_addAlias {name scope : String} (h : c.addAlias name scope = .ok d) :
    c.registry.aliases.insert name scope = .ok d.registry.aliases ∧ d.tools = c.tools := by
  obtain ⟨aliases, haliases, h⟩ := bind_eq_ok_iff.1 h
  cases h
  exact ⟨haliases, rfl⟩

/-! ## What holds of a catalog that is built -/

/-- The aliases of a catalog have been registered one by one. -/
theorem Built.reachable_aliases (h : c.Built) : c.registry.aliases.Reachable := by
  induction h with
  | empty => exact .empty
  | new => exact .empty
  | registerPrincipals _ h ih => exact (unchanged_registerPrincipals h).1 ▸ ih
  | registerFunctions _ h ih => exact (unchanged_registerFunctions h).1 ▸ ih
  | registerConstants _ _ ih => exact ih
  | declareConstraint _ _ _ ih => exact ih
  | declareExpression _ h ih => exact (unchanged_declareExpression h).1 ▸ ih
  | addAlias _ h ih => exact .insert ih (aliases_of_addAlias h).1
  | setTool _ tool _ ih => cases tool <;> exact ih
  | requireId _ _ ih => exact ih

/-- The tools of a catalog stand in the order of their keys. -/
theorem Built.sorted_tools (h : c.Built) : Dict.Sorted c.tools := by
  induction h with
  | empty => exact Dict.sorted_nil
  | new => exact .ofList _
  | registerPrincipals _ h ih => exact (unchanged_registerPrincipals h).2 ▸ ih
  | registerFunctions _ h ih => exact (unchanged_registerFunctions h).2 ▸ ih
  | registerConstants _ _ ih => exact ih
  | declareConstraint _ _ _ ih => exact ih
  | declareExpression _ h ih => exact (unchanged_declareExpression h).2 ▸ ih
  | addAlias _ h ih => exact (aliases_of_addAlias h).2 ▸ ih
  | setTool key tool _ ih =>
    cases tool with
    | some tool => exact ih.insert key tool
    | none => exact ih.filter _
  | requireId _ _ ih => exact ih

/-- The catalog of a configuration is built by its registrations. -/
theorem built_ofConfig {config : Config} (h : ofConfig config = .ok c) : c.Built := by
  obtain ⟨registered, hprincipals, h⟩ := bind_eq_ok_iff.1 h
  obtain ⟨declared, hconstraints, haliases⟩ := bind_eq_ok_iff.1 h
  have hregistered : registered.Built := .registerPrincipals .new hprincipals
  have hdeclared : declared.Built :=
    foldlM_induction (P := Built) (fun hb hd => .declareExpression hb hd)
      (.registerConstants _ hregistered) hconstraints
  exact foldlM_induction (P := Built) (fun hb hd => .addAlias hb hd) (.requireId _ hdeclared) haliases

end FieldRules.Catalog
