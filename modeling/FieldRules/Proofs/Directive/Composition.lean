import FieldRules.Proofs.Directive.Calls
import FieldRules.Proofs.Error

/-!
# What compositions come to

Written directives with operators between them are found again one by one.  After the written form
of segments whose configurations are not blank and have no quotes and no parentheses, the search for
an operator is outside all quotes and parentheses and not where a configuration begins, so that the
sign that comes next is an operator.  What the whole does follows by induction on the number of
operators: the first directive is applied, and what stands after the first operator is applied to
what it left.

## Main definitions

* `Directive.IsComposable` — the segments whose written form can stand in a composition.
* `Directive.writeComposition` — the written form of directives with operators between them.
* `Applier.inSuccession` — what appliers with operators between them leave behind.

## Main statements

* `Directive.foldl_next_writeSegments` — what the search for an operator knows after segments.
* `Directive.splitComposition?_writeSegments` — the search stops at the sign that comes next.
* `Directive.plan_writeComposition` — what a written composition asks for and what it does.
-/

namespace FieldRules

/-! ## Appliers in succession -/

/-- The leaves of the error of an outcome. -/
def Outcome.leaves (o : Outcome) : List Error := Error.leavesOf o.result

/-- What can be seen of an outcome, with its errors told one by one. -/
def Outcome.seen (o : Outcome) : Record × Context × List Error := (o.record, o.context, o.leaves)

namespace Applier

/-- What two appliers leave behind: the errors of the first one come first. -/
theorem seen_followed (first second : Applier) (goesOn : Field → Record → Bool) (field : Field)
    (r : Record) (ctx : Context) :
    (first.followed goesOn second field r ctx).seen =
      let o := first field r ctx
      if goesOn field o.record then
        let last := second field o.record o.context
        (last.record, last.context, o.leaves ++ last.leaves)
      else o.seen := by
  have hempty : Error.allLeaves ErrorBatch.empty.errors = [] := rfl
  by_cases hgo : goesOn field (first field r ctx).record = true
  · simp [followed, hgo, Outcome.seen, Outcome.leaves, ErrorBatch.leavesOf_result,
      ErrorBatch.allLeaves_capture, hempty]
  · simp [followed, hgo, Outcome.seen, Outcome.leaves, ErrorBatch.leavesOf_result,
      ErrorBatch.allLeaves_capture, hempty]

/-- What appliers with operators between them leave behind.  The first one is applied; then, after
`&` or where the field is now zero or cannot be read, all that stands after the operator is applied
to what it left. -/
def inSuccession : Applier → List (Composition × Applier) → Field → Record → Context →
    Record × Context × List Error
  | first, [], field, r, ctx => (first field r ctx).seen
  | first, (op, next) :: rest, field, r, ctx =>
    let o := first field r ctx
    if op = .both ∨ ∀ v, field.read? o.record = some v → v.isZero = true then
      let (r, ctx, errors) := inSuccession next rest field o.record o.context
      (r, ctx, o.leaves ++ errors)
    else o.seen

end Applier

theorem Composition.goesOn_iff {op : Composition} {field : Field} {r : Record} :
    op.goesOn field r = true ↔ op = .both ∨ ∀ v, field.read? r = some v → v.isZero = true := by
  cases op with
  | both => simp [goesOn]
  | fallback => cases h : field.read? r <;> simp [goesOn, Field.isZeroIn, h]

namespace Directive

variable {σ : Type} {a : Aliases} {segments first : List (Option String × String)}

/-! ## The search outside quotes and parentheses -/

/-- The characters that open or close what the search does not look into. -/
def delimiters : List Char := ['\'', '"', '(', ')']

/-- A character without any meaning in directives. -/
def IsPlain (c : Char) : Prop := isEscapable c = false ∧ c ∉ delimiters

theorem isPlain_of_isScopeChar {c : Char} (hc : isScopeChar c = true) : IsPlain c := by
  have hne := fun d => ne_of_isScopeChar (d := d) hc
  constructor
  · simp [isEscapable, hne ';' (by decide), hne ':' (by decide), hne '?' (by decide),
      hne '&' (by decide), hne '\\' (by decide)]
  · simp [delimiters, hne '\'' (by decide), hne '"' (by decide), hne '(' (by decide),
      hne ')' (by decide)]

theorem isPlain_of_isBlank {c : Char} (hc : Text.isBlank c = true) : IsPlain c := by
  have htable : ∀ n ∈ Text.blankCodes, isEscapable (Char.ofNat n) = false ∧
      Char.ofNat n ∉ delimiters := by decide
  rw [← Char.ofNat_toNat c]
  exact htable c.toNat (Text.mem_blankCodes_of_isBlank hc)

namespace OperatorScan

/-- What the search knows outside all quotes and parentheses, with no backslash right before. -/
def outside (atConfigStart : Bool) : OperatorScan := ⟨0, none, false, atConfigStart⟩

theorem next_of_isPlain {c : Char} (hc : IsPlain c) (b : Bool) :
    (outside b).next c = outside (b && Text.isBlank c) := by
  obtain ⟨hescapable, hopen⟩ := hc
  have hother : (c ≠ '\'' ∧ c ≠ '"' ∧ c ≠ '(' ∧ c ≠ ')') ∧ c ≠ '\\' ∧ c ≠ ':' ∧ c ≠ ';' := by
    simp only [isEscapable, Bool.or_eq_false_iff, beq_eq_false_iff_ne] at hescapable
    simp only [delimiters, List.mem_cons, List.not_mem_nil, or_false, not_or] at hopen
    exact ⟨hopen, hescapable.2, hescapable.1.1.1.2, hescapable.1.1.1.1⟩
  by_cases hblank : Text.isBlank c = true <;> simp [outside, next, hother, hblank]

/-- A configuration begins after a separator of segments and after a scope. -/
theorem next_separator {c : Char} (hc : c = ';' ∨ c = ':') (b : Bool) :
    (outside b).next c = outside true := by
  rcases hc with rfl | rfl <;> rfl

/-- A character with a backslash before it is passed over. -/
theorem next_backslash (c : Char) (b : Bool) :
    ((outside b).next '\\').next c = outside false := by
  have hblank : Text.isBlank '\\' = false := by decide
  simp [outside, next, hblank]

/-- The search stops at an operator, unless a configuration begins there. -/
theorem operator?_outside (op : Composition) : (outside false).operator? op.sign = some op := by
  cases op <;> rfl

end OperatorScan

theorem foldl_next_of_isPlain {p : List Char} (hp : ∀ c ∈ p, IsPlain c) (b : Bool) :
    p.foldl OperatorScan.next (.outside b) = .outside (b && p.all Text.isBlank) := by
  induction p generalizing b with
  | nil => simp
  | cons c p ih =>
    rw [List.foldl_cons, OperatorScan.next_of_isPlain (hp c List.mem_cons_self),
      ih fun d hd => hp d (List.mem_cons_of_mem _ hd), List.all_cons, Bool.and_assoc]

/-- After an escaped configuration the search is where a configuration begins only if it was there
before and has seen nothing but blanks. -/
theorem foldl_next_escape {p : List Char} (hp : ∀ c ∈ p, c ∉ delimiters) (b : Bool) :
    (escape p).foldl OperatorScan.next (.outside b) = .outside (b && p.all Text.isBlank) := by
  induction p generalizing b with
  | nil => simp [escape]
  | cons c p ih =>
    have ih := ih fun d hd => hp d (List.mem_cons_of_mem _ hd)
    rw [escape]
    by_cases hc : isEscapable c = true
    · have hblank : Text.isBlank c = false := by
        rw [← Bool.not_eq_true]
        intro hblank
        simp [(isPlain_of_isBlank hblank).1] at hc
      rw [if_pos hc, List.foldl_cons, List.foldl_cons, OperatorScan.next_backslash, ih]
      simp [hblank]
    · have hplain : IsPlain c := ⟨by simpa using hc, hp c List.mem_cons_self⟩
      rw [if_neg hc, List.foldl_cons, OperatorScan.next_of_isPlain hplain, ih, List.all_cons,
        Bool.and_assoc]

/-! ## Written compositions -/

/-- Segments whose written form can stand in a composition. -/
structure IsComposable (segments : List (Option String × String)) : Prop where
  ne_nil : segments ≠ []
  names : ∀ s ∈ segments, ∀ name ∈ s.1, IsScopeName name
  /-- No configuration is blank. -/
  notBlank : ∀ s ∈ segments, ¬ Text.Blanks s.2.toList
  /-- There are no quotes and no parentheses in configurations. -/
  undelimited : ∀ s ∈ segments, ∀ c ∈ s.2.toList, c ∉ delimiters

/-- Whether a segment can stand in a composition. -/
def composes (s : Option String × String) : Bool :=
  s.1.all (fun name => decide (IsScopeName name)) && !s.2.toList.all Text.isBlank &&
    s.2.toList.all fun c => !delimiters.contains c

theorem composes_iff {s : Option String × String} :
    composes s = true ↔ (∀ name ∈ s.1, IsScopeName name) ∧ ¬ Text.Blanks s.2.toList ∧
      ∀ c ∈ s.2.toList, c ∉ delimiters := by
  simp [composes, Option.all_eq_true, Text.Blanks, and_assoc]

theorem isComposable_iff :
    IsComposable segments ↔ (!segments.isEmpty && segments.all composes) = true := by
  simp only [Bool.and_eq_true, List.all_eq_true, composes_iff, Bool.not_eq_true',
    List.isEmpty_eq_false_iff]
  constructor
  · rintro ⟨hne, hnames, hblank, hconfig⟩
    exact ⟨hne, fun s hs => ⟨hnames s hs, hblank s hs, hconfig s hs⟩⟩
  · rintro ⟨hne, h⟩
    exact ⟨hne, fun s hs => (h s hs).1, fun s hs => (h s hs).2.1, fun s hs => (h s hs).2.2⟩

instance (segments : List (Option String × String)) : Decidable (IsComposable segments) :=
  decidable_of_iff _ isComposable_iff.symm

theorem foldl_next_writeSegment {scope? : Option String} {config : String}
    (hname : ∀ name ∈ scope?, IsScopeName name) (hblank : ¬ Text.Blanks config.toList)
    (hconfig : ∀ c ∈ config.toList, c ∉ delimiters) (b : Bool) :
    (writeSegment scope? config).foldl OperatorScan.next (.outside b) = .outside false := by
  have hall : config.toList.all Text.isBlank = false := by
    rw [← Bool.not_eq_true, List.all_eq_true]
    exact hblank
  cases scope? with
  | none => rw [writeSegment, foldl_next_escape hconfig, hall, Bool.and_false]
  | some name =>
    have hplain : ∀ c ∈ name.toList, IsPlain c := fun c hc =>
      isPlain_of_isScopeChar ((hname name rfl).all c hc)
    rw [writeSegment, List.foldl_append, foldl_next_of_isPlain hplain, List.foldl_cons,
      OperatorScan.next_separator (.inr rfl), foldl_next_escape hconfig, hall, Bool.and_false]

theorem IsComposable.tail {s : Option String × String} {rest : List (Option String × String)}
    (h : IsComposable (s :: rest)) (hne : rest ≠ []) : IsComposable rest where
  ne_nil := hne
  names u hu := h.names u (List.mem_cons_of_mem _ hu)
  notBlank u hu := h.notBlank u (List.mem_cons_of_mem _ hu)
  undelimited u hu := h.undelimited u (List.mem_cons_of_mem _ hu)

/-- **After written segments** the search is outside, and not where a configuration begins. -/
theorem foldl_next_writeSegments (h : IsComposable segments) (b : Bool) :
    (writeSegments segments).foldl OperatorScan.next (.outside b) = .outside false := by
  induction segments generalizing b with
  | nil => exact absurd rfl h.ne_nil
  | cons s rest ih =>
    have hs := foldl_next_writeSegment (h.names s List.mem_cons_self)
      (h.notBlank s List.mem_cons_self) (h.undelimited s List.mem_cons_self)
    cases rest with
    | nil => exact hs b
    | cons t rest =>
      rw [writeSegments, List.foldl_append, hs, List.foldl_cons,
        OperatorScan.next_separator (.inl rfl)]
      exact ih (h.tail (List.cons_ne_nil _ _)) true

theorem not_blanks_writeSegments (h : IsComposable segments) :
    ¬ Text.Blanks (writeSegments segments) := by
  intro hblanks
  -- blanks would leave the search where the first configuration begins
  have hplain := foldl_next_of_isPlain (fun c hc => isPlain_of_isBlank (hblanks c hc)) true
  rw [foldl_next_writeSegments h, List.all_eq_true.2 hblanks] at hplain
  cases hplain

/-- **The search stops at the sign that comes next** after written segments. -/
theorem splitComposition?_writeSegments (h : IsComposable segments) (op : Composition)
    (right : List Char) :
    splitComposition? (writeSegments segments ++ op.sign :: right) =
      some (writeSegments segments, op, right) := by
  have hne : writeSegments segments ≠ [] := by
    intro hnil
    apply not_blanks_writeSegments h
    rw [hnil]
    exact Text.blanks_nil
  have hfold := foldl_next_writeSegments h true
  refine splitComposition?_eq_some_iff.2 ⟨rfl, hne, ?_, ?_⟩
  · exact (operatorFree_writeSegments h.names).splitComposition?
  · rw [show OperatorScan.start = .outside true from rfl, hfold, OperatorScan.operator?_outside]

/-- The written form of directives with operators between them. -/
def writeComposition (first : List (Option String × String)) :
    List (Composition × List (Option String × String)) → List Char
  | [] => writeSegments first
  | (op, next) :: rest => writeSegments first ++ op.sign :: writeComposition next rest

theorem not_blanks_writeComposition (h : IsComposable first)
    (rest : List (Composition × List (Option String × String))) :
    ¬ Text.Blanks (writeComposition first rest) := by
  intro hblanks
  apply not_blanks_writeSegments h
  cases rest with
  | nil => exact hblanks
  | cons second rest =>
    intro c hc
    exact hblanks c (List.mem_append_left _ hc)

section Meaning

variable {α : Type} {next : List (Option String × String)} {op : Composition}
  {rest : List (Composition × List (Option String × String))}

/-- The plan of a written composition is made from the plan of its first directive and from the plan
of all that stands after the first operator. -/
theorem plan_writeComposition_cons (hfirst : IsComposable first) (hnext : IsComposable next)
    (leaf : String → String → ExceptT Error (StateM σ) (Option α)) :
    (read (String.ofList (writeComposition first ((op, next) :: rest)))).plan a leaf = (do
      let left ← (read (String.ofList (writeSegments first))).plan a leaf
      let right ← (read (String.ofList (writeComposition next rest))).plan a leaf
      pure (Plan.composed op left right)) := by
  have hsplit := splitComposition?_writeSegments hfirst op (writeComposition next rest)
  rw [← String.toList_ofList (l := writeSegments first ++ op.sign :: writeComposition next rest)]
    at hsplit
  obtain ⟨hwhole, hleft⟩ := read_eq_compose hsplit (not_blanks_writeSegments hfirst)
    (not_blanks_writeComposition hnext rest)
  rw [writeComposition, hwhole, hleft]
  rfl

/-- What is asked for a written composition is what is asked for all its segments, in order. -/
theorem discard_plan_writeComposition (ha : a.WellFormed) (hfirst : IsComposable first)
    (hrest : ∀ r ∈ rest, IsComposable r.2)
    (leaf : String → String → ExceptT Error (StateM σ) (Option α)) :
    (fun _ => ()) <$> (read (String.ofList (writeComposition first rest))).plan a leaf =
      (fun _ => ()) <$> ask leaf (callsOfWritten a (first ++ rest.flatMap Prod.snd)) := by
  have hplan := plan_eq_of_writeSegments ha hfirst.ne_nil hfirst.names leaf
  induction rest generalizing first with
  | nil => simp [writeComposition, hplan]
  | cons second rest ih =>
    obtain ⟨op, next⟩ := second
    have hnext := hrest _ List.mem_cons_self
    have ih := ih hnext (fun r hr => hrest r (List.mem_cons_of_mem _ hr))
      (plan_eq_of_writeSegments ha hnext.ne_nil hnext.names leaf)
    have hcalls : callsOfWritten a (first ++ ((op, next) :: rest).flatMap Prod.snd) =
        callsOfWritten a first ++ callsOfWritten a (next ++ rest.flatMap Prod.snd) := by
      simp [callsOfWritten]
    rw [plan_writeComposition_cons hfirst hnext, hplan, hcalls, ask_append]
    simp only [map_bind, map_pure, bind_map_left]
    congr 1
    funext answers
    rwa [map_eq_pure_bind, map_eq_pure_bind] at ih

end Meaning

/-! ## Answers that are always there -/

/-- Every configuration is always given a meaning. -/
def AlwaysAnswers {α : Type} (leaf : String → String → ExceptT Error (StateM σ) (Option α)) :
    Prop :=
  ∀ scope config s, ∃ said s', (leaf scope config).run.run s = (.ok (some said), s')

section Answering

variable {leaf : String → String → ExceptT Error (StateM σ) (Option Applier)}

theorem AlwaysAnswers.ask (hleaf : AlwaysAnswers leaf) (calls : List (String × String)) (s : σ) :
    ∃ answers s', (ask leaf calls).run.run s = (.ok answers, s') ∧
      answers.length = calls.length ∧ ∀ answer ∈ answers, answer.2 ≠ none := by
  induction calls generalizing s with
  | nil => exact ⟨[], s, rfl, rfl, by simp⟩
  | cons call calls ih =>
    obtain ⟨said, s₁, hsaid⟩ := hleaf call.1 call.2 s
    obtain ⟨answers, s', hanswers, hlength, hsome⟩ := ih s₁
    refine ⟨(call.1, some said) :: answers, s', ?_, by simp [hlength], ?_⟩
    · rw [ask_cons]
      exact run_bind_eq_ok_iff.2 ⟨_, _, hsaid, run_bind_eq_ok_iff.2 ⟨_, _, hanswers, rfl⟩⟩
    · intro answer hanswer
      rcases List.mem_cons.1 hanswer with rfl | hanswer
      · exact Option.some_ne_none said
      · exact hsome answer hanswer

/-- Where the last answer says something, there is something to do. -/
theorem isNothing_of_answers {α : Type} {answers : List (String × Option α)} (hne : answers ≠ [])
    (hsome : ∀ answer ∈ answers, answer.2 ≠ none) :
    (Plan.ofScopes a (scopesOf answers)).isNothing = false := by
  rw [← Bool.not_eq_true, Plan.isNothing_ofScopes_iff]
  intro hnothing
  rcases List.eq_nil_or_concat answers with hnil | ⟨earlier, last, rfl⟩
  · exact hne hnil
  · have hlast := hnothing last.1
    rw [find?_scopesOf, List.concat_eq_append, lastAnswer?_concat, if_pos rfl] at hlast
    exact hsome last (by simp) hlast

/-- The applier of a directive, if it has anything to do. -/
def applierOf (a : Aliases) (leaf : String → String → ExceptT Error (StateM σ) (Option Applier))
    (text : List Char) : ExceptT Error (StateM σ) (Option Applier) :=
  Plan.applier? id <$> (read (String.ofList text)).plan a leaf

theorem run_applierOf_iff {text : List Char} {applier : Applier} {s s' : σ} :
    (applierOf a leaf text).run.run s = (.ok (some applier), s') ↔
      ∃ p : Plan Applier, ((read (String.ofList text)).plan a leaf).run.run s = (.ok p, s') ∧
        p.isNothing = false ∧ p.run id = applier := by
  rw [applierOf, map_eq_pure_bind, run_bind_eq_ok_iff]
  constructor
  · rintro ⟨p, s₁, hp, hpure⟩
    obtain ⟨hsome, rfl⟩ : p.applier? id = some applier ∧ s₁ = s' := by
      simpa using Prod.mk.inj hpure
    by_cases hnothing : p.isNothing = true
    · simp [Plan.applier?, hnothing] at hsome
    · refine ⟨p, hp, by simpa using hnothing, ?_⟩
      simpa [Plan.applier?, hnothing] using hsome
  · rintro ⟨p, hp, hsome, rfl⟩
    have happlier : p.applier? id = some (p.run id) := by simp [Plan.applier?, hsome]
    exact ⟨p, s', hp, by rw [happlier]; rfl⟩

theorem AlwaysAnswers.applierOf_writeSegments (hleaf : AlwaysAnswers leaf) (ha : a.WellFormed)
    (h : IsComposable segments) (s : σ) :
    ∃ applier s', (applierOf a leaf (writeSegments segments)).run.run s =
      (.ok (some applier), s') := by
  obtain ⟨answers, s', hask, hlength, hsome⟩ := hleaf.ask (callsOfWritten a segments) s
  have hne : answers ≠ [] := by
    intro hnil
    have hempty : segments.length = 0 := by simpa [hnil, callsOfWritten] using hlength.symm
    exact h.ne_nil (List.length_eq_zero_iff.1 hempty)
  refine ⟨_, s', run_applierOf_iff.2 ⟨_, ?_, isNothing_of_answers (a := a) hne hsome, rfl⟩⟩
  rw [plan_eq_of_writeSegments ha h.ne_nil h.names, map_eq_pure_bind]
  exact run_bind_eq_ok_iff.2 ⟨answers, s', hask, rfl⟩

/-- The applier of a written composition applies the first directive, and what stands after the
first operator after it. -/
theorem applierOf_writeComposition_cons {next : List (Option String × String)} {op : Composition}
    {rest : List (Composition × List (Option String × String))} (hfirst : IsComposable first)
    (hnext : IsComposable next) {before after : Applier} {s s₁ s' : σ}
    (hbefore : (applierOf a leaf (writeSegments first)).run.run s = (.ok (some before), s₁))
    (hafter : (applierOf a leaf (writeComposition next rest)).run.run s₁ =
      (.ok (some after), s')) :
    (applierOf a leaf (writeComposition first ((op, next) :: rest))).run.run s =
      (.ok (some (before.followed op.goesOn after)), s') := by
  obtain ⟨left, hleft, hsome, rfl⟩ := run_applierOf_iff.1 hbefore
  obtain ⟨right, hright, -, rfl⟩ := run_applierOf_iff.1 hafter
  refine run_applierOf_iff.2 ⟨.compose op left right, ?_, rfl, rfl⟩
  rw [plan_writeComposition_cons hfirst hnext]
  refine run_bind_eq_ok_iff.2 ⟨left, s₁, hleft, run_bind_eq_ok_iff.2 ⟨right, s', hright, ?_⟩⟩
  rw [Plan.composed, hsome, Bool.false_and]
  rfl

/-- **What a written composition asks for and what it does.**  Its configurations are given their
meanings in order, those of the first directive first.  Where there always is one, the whole does
what its directives do in succession, each taken for itself. -/
theorem plan_writeComposition (ha : a.Reachable)
    {rest : List (Composition × List (Option String × String))} (hfirst : IsComposable first)
    (hrest : ∀ r ∈ rest, IsComposable r.2)
    (leaf : String → String → ExceptT Error (StateM σ) (Option Applier)) :
    (fun _ => ()) <$> (read (String.ofList (writeComposition first rest))).plan a leaf =
        (fun _ => ()) <$> ask leaf (callsOfWritten a (first ++ rest.flatMap Prod.snd)) ∧
      (AlwaysAnswers leaf → ∀ s, ∃ before appliers whole s₁ s',
        (applierOf a leaf (writeSegments first)).run.run s = (.ok (some before), s₁) ∧
        (rest.mapM fun r => applierOf a leaf (writeSegments r.2)).run.run s₁ =
          (.ok (appliers.map some), s') ∧
        (applierOf a leaf (writeComposition first rest)).run.run s = (.ok (some whole), s') ∧
        ∀ field r ctx, (whole field r ctx).seen =
          before.inSuccession ((rest.map Prod.fst).zip appliers) field r ctx) := by
  refine ⟨discard_plan_writeComposition ha.wellFormed hfirst hrest leaf, fun hleaf => ?_⟩
  induction rest generalizing first with
  | nil =>
    intro s
    obtain ⟨before, s₁, hbefore⟩ := hleaf.applierOf_writeSegments ha.wellFormed hfirst s
    exact ⟨before, [], before, s₁, s₁, hbefore, rfl, hbefore, fun _ _ _ => rfl⟩
  | cons second rest ih =>
    intro s
    obtain ⟨op, next⟩ := second
    have hnext := hrest _ List.mem_cons_self
    obtain ⟨before, s₁, hbefore⟩ := hleaf.applierOf_writeSegments ha.wellFormed hfirst s
    -- the later directives go on from the state that the first one leaves
    obtain ⟨second, appliers, after, s₂, s', hsecond, happliers, hafter, hseen⟩ :=
      ih hnext (fun r hr => hrest r (List.mem_cons_of_mem _ hr)) s₁
    refine ⟨before, second :: appliers, before.followed op.goesOn after, s₁, s', hbefore, ?_,
      applierOf_writeComposition_cons hfirst hnext hbefore hafter, fun field r ctx => ?_⟩
    · rw [List.mapM_cons]
      exact run_bind_eq_ok_iff.2 ⟨_, _, hsecond, run_bind_eq_ok_iff.2 ⟨_, _, happliers, rfl⟩⟩
    · rw [Applier.seen_followed]
      simp only [List.map_cons, List.zip_cons_cons, Applier.inSuccession, Composition.goesOn_iff,
        ← hseen]
      rfl

/-- The leaf function that makes every configuration a fixed text. -/
def setText (_ config : String) : ExceptT Error (StateM Unit) (Option Applier) :=
  pure (some (.value (.text config)))

theorem alwaysAnswers_setText : AlwaysAnswers setText := fun _ config s =>
  ⟨.value (.text config), s, rfl⟩

/-- Three directives, of which the second one has a configuration that looks like an operator. -/
theorem plan_writeComposition_three :
    Aliases.Reachable ⟨[("a", "b")]⟩ ∧ IsComposable [(none, "=1")] ∧
    (∀ r ∈ [(Composition.fallback, [(some "a", "=2"), (none, "&")]), (.both, [(none, "=3")])],
      IsComposable r.2) ∧
    AlwaysAnswers setText ∧
    ∃ before second third whole : Applier,
      (applierOf ⟨[("a", "b")]⟩ setText "=1".toList).run.run () = (.ok (some before), ()) ∧
      (applierOf ⟨[("a", "b")]⟩ setText "a:=2;\\&".toList).run.run () = (.ok (some second), ()) ∧
      (applierOf ⟨[("a", "b")]⟩ setText "=3".toList).run.run () = (.ok (some third), ()) ∧
      (applierOf ⟨[("a", "b")]⟩ setText "=1?a:=2;\\&&=3".toList).run.run () =
        (.ok (some whole), ()) ∧
      ∀ field r ctx, (whole field r ctx).seen =
        before.inSuccession [(.fallback, second), (.both, third)] field r ctx := by
  have hfirst : IsComposable [(none, "=1")] := by decide
  have hrest : ∀ r ∈ [(Composition.fallback, [(some "a", "=2"), (none, "&")]),
      (.both, [(none, "=3")])], IsComposable r.2 := by decide
  have hwritten : writeComposition [(none, "=1")] [(Composition.fallback,
      [(some "a", "=2"), (none, "&")]), (.both, [(none, "=3")])] = "=1?a:=2;\\&&=3".toList := by
    decide
  obtain ⟨before, appliers, whole, ⟨⟩, ⟨⟩, hbefore, happliers, hwhole, hseen⟩ :=
    (plan_writeComposition Aliases.reachable_single hfirst hrest setText).2
      alwaysAnswers_setText ()
  -- the two later directives are taken one by one
  rw [List.mapM_cons, List.mapM_cons, List.mapM_nil] at happliers
  obtain ⟨second?, ⟨⟩, hsecond, hmore⟩ := run_bind_eq_ok_iff.1 happliers
  obtain ⟨_, ⟨⟩, hmore, hall⟩ := run_bind_eq_ok_iff.1 hmore
  obtain ⟨third?, ⟨⟩, hthird, hpure⟩ := run_bind_eq_ok_iff.1 hmore
  cases hpure
  have hsome : [second?, third?] = appliers.map some := Except.ok.inj (Prod.mk.inj hall).1
  obtain _ | ⟨second, _ | ⟨third, _ | ⟨fourth, more⟩⟩⟩ := appliers <;> cases hsome
  rw [hwritten] at hwhole
  exact ⟨Aliases.reachable_single, hfirst, hrest, alwaysAnswers_setText, before, second, third,
    whole, hbefore, hsecond, hthird, hwhole, hseen⟩

end Answering

end Directive

end FieldRules
