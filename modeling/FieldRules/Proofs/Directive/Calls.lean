import FieldRules.Proofs.Directive.Enumeration
import FieldRules.Proofs.Directive.Reading
import FieldRules.Proofs.Directive.Selection
import Mathlib.Data.List.Induction

/-!
# What segments come to

The segments of a directive are given their meanings one after the other, each under the scope that
its scope stands for, and the first failure ends it.  The last answer for a scope counts, also when
it is that there is nothing to do.  In a scope the last answer for the scope itself is chosen, else
the last one for the scope that it is an alias of, else the last one for every scope.

## Main definitions

* `Directive.ask` — gives configurations their meanings, one after the other.
* `Directive.lastAnswer?` — what counts for a scope.
* `Directive.chosen?` — what counts in a scope.

## Main statements

* `Directive.segmentsPlan_eq` — the plan of segments is made from the answers.
* `Directive.plan_chooses` — what a directive without an operator does.
* `Directive.plan_writeSegments` — what is asked for written segments.
-/

namespace FieldRules.Directive

variable {m : Type → Type} [Monad m] {σ α : Type} {a : Aliases}

/-! ## Asking -/

/-- Gives configurations their meanings, each for its scope, one after the other. -/
def ask (leaf : String → String → m (Option α)) (calls : List (String × String)) :
    m (List (String × Option α)) :=
  calls.mapM fun call => do return (call.1, ← leaf call.1 call.2)

theorem ask_cons [LawfulMonad m] (leaf : String → String → m (Option α)) (call : String × String)
    (calls : List (String × String)) :
    ask leaf (call :: calls) = (do
      let said? ← leaf call.1 call.2
      let answers ← ask leaf calls
      pure ((call.1, said?) :: answers)) := by
  simp [ask, List.mapM_cons]

theorem ask_append [LawfulMonad m] (leaf : String → String → m (Option α))
    (calls more : List (String × String)) :
    ask leaf (calls ++ more) = (do
      let answers ← ask leaf calls
      let later ← ask leaf more
      pure (answers ++ later)) :=
  List.mapM_append

/-- What is asked for segments: their configurations, for the scopes that their scopes stand for. -/
def callsOf (a : Aliases) (segments : List Segment) : List (String × String) :=
  segments.map fun s => (a.resolve s.scope, s.config)

/-- What an answer changes in what is said for each scope. -/
def answered (scopes : Dict α) (answer : String × Option α) : Dict α :=
  match answer.2 with
  | some said => scopes.insert answer.1 said
  | none => scopes.erase answer.1

/-- What answers say for each scope. -/
def scopesOf (answers : List (String × Option α)) : Dict α := answers.foldl answered []

/-- What the last answer for a scope says. -/
def lastAnswer? (answers : List (String × Option α)) (scope : String) : Option α :=
  (answers.reverse.lookup scope).join

theorem meanings_eq [LawfulMonad m] (leaf : String → String → m (Option α)) (scopes : Dict α)
    (segments : List Segment) :
    meanings a leaf scopes segments =
      (fun answers => answers.foldl answered scopes) <$> ask leaf (callsOf a segments) := by
  induction segments generalizing scopes with
  | nil => simp [meanings, ask, callsOf]
  | cons s rest ih =>
    have hcalls : callsOf a (s :: rest) = (a.resolve s.scope, s.config) :: callsOf a rest := rfl
    rw [hcalls, ask_cons, meanings]
    simp only [map_bind, map_pure]
    congr 1
    funext said?
    cases said? <;> simp [ih, answered]

/-- **The plan of segments** is made from the answers for their configurations. -/
theorem segmentsPlan_eq [LawfulMonad m] (leaf : String → String → m (Option α))
    (segments : List Segment) :
    segmentsPlan a leaf segments =
      (fun answers => Plan.ofScopes a (scopesOf answers)) <$> ask leaf (callsOf a segments) := by
  rw [segmentsPlan, meanings_eq, map_eq_pure_bind]
  simp [scopesOf]

/-! ## What counts -/

theorem find?_answered (scopes : Dict α) (answer : String × Option α) (scope : String) :
    (answered scopes answer).find? scope =
      if answer.1 = scope then answer.2 else scopes.find? scope := by
  obtain ⟨key, said?⟩ := answer
  cases said? with
  | none => rw [answered, Dict.find?_erase]
  | some said => rw [answered, Dict.find?_insert]

theorem lastAnswer?_concat (earlier : List (String × Option α)) (answer : String × Option α)
    (scope : String) :
    lastAnswer? (earlier ++ [answer]) scope =
      if answer.1 = scope then answer.2 else lastAnswer? earlier scope := by
  obtain ⟨key, said?⟩ := answer
  rw [lastAnswer?, lastAnswer?, List.reverse_concat, List.lookup_cons]
  by_cases hscope : key = scope
  · simp [hscope]
  · have hne : (scope == key) = false := by simpa using Ne.symm hscope
    simp [hscope, hne]

/-- What answers say for a scope is what the last one of them says. -/
theorem find?_scopesOf (answers : List (String × Option α)) (scope : String) :
    (scopesOf answers).find? scope = lastAnswer? answers scope := by
  induction answers using List.reverseRecOn with
  | nil => rfl
  | append_singleton earlier answer ih =>
    rw [scopesOf] at ih ⊢
    rw [List.foldl_concat, find?_answered, ih, lastAnswer?_concat]

theorem sorted_scopesOf (answers : List (String × Option α)) : Dict.Sorted (scopesOf answers) := by
  induction answers using List.reverseRecOn with
  | nil => exact Dict.sorted_nil
  | append_singleton earlier answer ih =>
    rw [scopesOf] at ih ⊢
    rw [List.foldl_concat, answered]
    split
    · exact ih.insert answer.1 _
    · exact ih.filter _

/-- What counts in a scope: what the last answer for it says, else what the last answer for the
scope that it is an alias of says, else what the last answer for every scope says. -/
def chosen? (a : Aliases) (answers : List (String × Option α)) (scope : String) : Option α :=
  (if scope = wildcard then none else lastAnswer? answers scope).or
    (((a.targets.find? scope).bind (lastAnswer? answers)).or (lastAnswer? answers wildcard))

theorem governing_scopesOf (answers : List (String × Option α)) (scope : String) :
    Plan.governing a (scopesOf answers) scope = chosen? a answers scope := by
  have hown : ∀ scope, Plan.own (scopesOf answers) scope =
      if scope = wildcard then none else lastAnswer? answers scope := by
    intro scope
    rw [Plan.own, find?_scopesOf]
    simp only [eq_comm (a := wildcard)]
  rw [Plan.governing, chosen?, hown, find?_scopesOf, Option.or_assoc]
  congr 1
  cases a.targets.find? scope with
  | none => rfl
  | some target =>
    -- what is said for every scope counts for a target that is the wildcard, in either way
    rw [Option.bind_some, Option.bind_some, hown]
    by_cases hwild : target = wildcard <;> simp [hwild]

/-! ## Directives without an operator -/

/-- **What a directive without an operator does.**  Its configurations are given their meanings one
after the other, and the first failure is that of the directive.  Where there is none, there is
something to do exactly if some last answer says so; in each scope what counts there is done, or
nothing if nothing counts; and the order in which scopes and aliases are gone through has no
influence. -/
theorem plan_chooses (ha : Dict.Sorted a.targets) {text : String}
    (hop : splitComposition? text.toList = none)
    (leaf : String → String → ExceptT Error (StateM σ) (Option Applier)) (s : σ) :
    (∀ e s', (ask leaf (callsOf a (readSegments text.toList))).run.run s = (.error e, s') →
      ((read text).plan a leaf).run.run s = (.error e, s')) ∧
    ∀ answers s', (ask leaf (callsOf a (readSegments text.toList))).run.run s = (.ok answers, s') →
      ∃ p : Plan Applier, ((read text).plan a leaf).run.run s = (.ok p, s') ∧
        (p.applier? id = none ↔ ∀ scope, lastAnswer? answers scope = none) ∧
        (∀ applier, p.applier? id = some applier → ∀ field r ctx, applier field r ctx =
          (chosen? a answers ctx.scope).elim (Applier.skip field r ctx) fun chosen =>
            chosen field r ctx) ∧
        ∀ (order : List String) (aliasesOf : String → List String),
          order.Perm ((scopesOf answers).erase wildcard).keys →
          (∀ scope, (aliasesOf scope).Perm (a.aliasesOf scope)) →
          Plan.ofScopesAlong order aliasesOf (scopesOf answers) = p := by
  have hplan : (read text).plan a leaf = (fun answers => Plan.ofScopes a (scopesOf answers)) <$>
      ask leaf (callsOf a (readSegments text.toList)) := by
    rw [read_eq_segments hop]
    exact segmentsPlan_eq leaf _
  rw [hplan, ExceptT.run_map]
  refine ⟨fun e s' h => ?_, fun answers s' h => ?_⟩
  · rw [StateT.run_map, h]
    rfl
  · refine ⟨Plan.ofScopes a (scopesOf answers), ?_, ?_, ?_, ?_⟩
    · rw [StateT.run_map, h]
      rfl
    · simp [Plan.applier?, Plan.isNothing_ofScopes_iff, find?_scopesOf]
    · intro applier happlier field r ctx
      rw [← Plan.run_of_applier? happlier, Plan.run_ofScopes ha, governing_scopesOf]
      rfl
    · intro order aliasesOf horder haliases
      exact Plan.ofScopesAlong_eq ha (sorted_scopesOf answers) horder haliases

/-- The leaf function that makes every configuration a fixed text, and an empty one nothing. -/
def fixedText (_ config : String) : ExceptT Error (StateM Unit) (Option Applier) :=
  pure (if config.isEmpty then none else some (.value (.text config)))

/-- A last segment that says nothing takes back what an earlier one said, and an alias of its scope
gets what is said for every scope. -/
theorem plan_chooses_taken_back :
    Dict.Sorted [("a", "b")] ∧ splitComposition? "b:=1;*:=2;b:".toList = none ∧
    ∃ p : Plan Applier,
      ((read "b:=1;*:=2;b:").plan ⟨[("a", "b")]⟩ fixedText).run.run () = (.ok p, ()) ∧
      p.applier? id ≠ none ∧
      ∀ applier, p.applier? id = some applier → ∀ field r ctx, ctx.scope = "a" →
        applier field r ctx = Applier.value (.text "=2") field r ctx := by
  have hop : splitComposition? "b:=1;*:=2;b:".toList = none := by decide
  have hsorted : Dict.Sorted [("a", "b")] := Aliases.reachable_single.wellFormed.sorted
  have hnames : ∀ s ∈ [(some "b", "=1"), (some "*", "=2"), (some "b", "")], ∀ name ∈ s.1,
      IsScopeName name := by
    simp
    decide
  have hwritten : "b:=1;*:=2;b:".toList =
      writeSegments [(some "b", "=1"), (some "*", "=2"), (some "b", "")] := by decide
  have hread : readSegments "b:=1;*:=2;b:".toList = [⟨"b", "=1"⟩, ⟨"*", "=2"⟩, ⟨"b", ""⟩] := by
    rw [hwritten]
    exact readSegments_writeSegments (List.cons_ne_nil _ _) hnames
  have hchooses := plan_chooses (a := ⟨[("a", "b")]⟩) hsorted hop fixedText ()
  rw [hread] at hchooses
  obtain ⟨p, hp, hnothing, hrun, -⟩ := hchooses.2 [("b", some (.value (.text "=1"))),
    ("*", some (.value (.text "=2"))), ("b", none)] () rfl
  refine ⟨hsorted, hop, p, hp, fun hnone => ?_, fun applier happlier field r ctx hscope => ?_⟩
  · cases hnothing.1 hnone wildcard
  · rw [hrun applier happlier, hscope]
    rfl

/-! ## Written segments -/

/-- What is asked for written segments: each configuration as it was before it was written, for the
scope that its scope stands for, or for every scope when none is named. -/
def callsOfWritten (a : Aliases) (segments : List (Option String × String)) :
    List (String × String) :=
  segments.map fun s => ((s.1.map a.resolve).getD wildcard, s.2)

theorem callsOf_written (ha : a.WellFormed) (segments : List (Option String × String)) :
    callsOf a (segments.map fun s => ⟨s.1.getD wildcard, s.2⟩) = callsOfWritten a segments := by
  rw [callsOf, callsOfWritten, List.map_map]
  refine List.map_congr_left fun s _ => ?_
  obtain ⟨scope?, config⟩ := s
  cases scope? with
  | none => exact Prod.ext (ha.resolve_eq_wildcard_iff.2 rfl) rfl
  | some scope => rfl

theorem plan_eq_of_writeSegments (ha : a.WellFormed) {segments : List (Option String × String)}
    (hne : segments ≠ []) (hnames : ∀ s ∈ segments, ∀ name ∈ s.1, IsScopeName name)
    (leaf : String → String → ExceptT Error (StateM σ) (Option α)) :
    (read (String.ofList (writeSegments segments))).plan a leaf =
      (fun answers => Plan.ofScopes a (scopesOf answers)) <$>
        ask leaf (callsOfWritten a segments) := by
  rw [read_writeSegments hne hnames, ← callsOf_written ha]
  exact segmentsPlan_eq leaf _

/-- **What is asked for written segments**: no operator is found in them, and each configuration is
given its meaning once, in order, as it was before it was written. -/
theorem plan_writeSegments (ha : a.Reachable) {segments : List (Option String × String)}
    (hne : segments ≠ []) (hnames : ∀ s ∈ segments, ∀ name ∈ s.1, IsScopeName name)
    (leaf : String → String → ExceptT Error (StateM σ) (Option α)) :
    splitComposition? (writeSegments segments) = none ∧
      (read (String.ofList (writeSegments segments))).plan a leaf =
        (fun answers => Plan.ofScopes a (scopesOf answers)) <$>
          ask leaf (callsOfWritten a segments) := by
  have hfree := operatorFree_writeSegments hnames
  exact ⟨hfree.splitComposition?, plan_eq_of_writeSegments ha.wellFormed hne hnames leaf⟩

/-- Configurations that look like operators, separators, scopes and the ends of quotes. -/
theorem plan_writeSegments_hostile :
    Aliases.Reachable ⟨[("a", "b")]⟩ ∧
    splitComposition? (writeSegments [(some "a", "=x;y?z\\"), (none, "b:(&'"), (none, "")]) = none ∧
    (read (String.ofList
      (writeSegments [(some "a", "=x;y?z\\"), (none, "b:(&'"), (none, "")]))).plan ⟨[("a", "b")]⟩
        echo =
      (fun answers => Plan.ofScopes ⟨[("a", "b")]⟩ (scopesOf answers)) <$>
        ask echo [("b", "=x;y?z\\"), ("*", "b:(&'"), ("*", "")] := by
  have hnames : ∀ s ∈ [(some "a", "=x;y?z\\"), (none, "b:(&'"), (none, "")], ∀ name ∈ s.1,
      IsScopeName name := by
    simp
    decide
  exact ⟨Aliases.reachable_single,
    plan_writeSegments Aliases.reachable_single (List.cons_ne_nil _ _) hnames echo⟩

end FieldRules.Directive
