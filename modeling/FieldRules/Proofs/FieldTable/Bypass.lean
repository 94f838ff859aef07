import FieldRules.Proofs.Directive.Operators
import FieldRules.Proofs.FieldTable.Ownership
import FieldRules.Proofs.Tool.Guarded
import FieldRules.Proofs.Value.Equality

/-!
# Fields whose default is skipped

A field says of itself that its default is only for a field that is zero when its tag begins with a
question mark.  That question mark belongs to the first configuration of the tag only.  On a field
that is set a directive reaches one configuration for the active scope on the left side of each
composition, and on the right side too where a `&` stands between them; and the field is kept exactly
when each of those that are reached begins with a question mark of its own.

## Main definitions

* `Plan.reached` — what is done in a scope while the field stays set.
* `Plan.KeepsSet` — the plans of defaults that do nothing to a field that is set.
* `Directive.reachedConfigs` — the configurations that are reached while the field stays set.

## Main statements

* `Plan.run_of_reached` — a plan does nothing where what is reached does nothing.
* `Plan.keepsSet_iff` — which plans keep a field that is set, whatever they would fill it with.
* `Catalog.reached_of_bypassIfSet` — what is so of a field whose tag begins with a question mark.
-/

namespace FieldRules

variable {field : Field} {r : Record} {ctx : Context}

/-! ## What is reached -/

namespace Plan

variable {α : Type} {P : α → Prop}

/-- What a plan does in a scope while the field stays set, which the right side of a `?` never
sees. -/
def reached (scope : String) : Plan α → List α
  | .nothing => []
  | .scoped byScope fallback => (choose byScope fallback scope).toList
  | .compose .fallback left _ => reached scope left
  | .compose .both left right => reached scope left ++ reached scope right

/-- What is reached in a scope is chosen in it. -/
theorem Each.of_mem_reached {p : Plan α} (h : p.Each P) {scope : String} {a : α}
    (ha : a ∈ p.reached scope) : P a := by
  induction p with
  | nothing => cases ha
  | «scoped» byScope fallback => exact h scope a (Option.mem_toList.1 ha)
  | compose op left right ihleft ihright =>
    cases op with
    | fallback => exact ihleft h.1 ha
    | both =>
      rcases List.mem_append.1 ha with ha | ha
      · exact ihleft h.1 ha
      · exact ihright h.2 ha

/-- What is reached in two plans one after the other is reached in one of them. -/
theorem mem_reached_composed {op : Composition} {left right : Plan α} {scope : String} {a : α}
    (ha : a ∈ (composed op left right).reached scope) :
    a ∈ left.reached scope ∨ (op = .both ∧ a ∈ right.reached scope) := by
  rw [composed] at ha
  split at ha
  · cases ha
  · cases op with
    | fallback => exact .inl ha
    | both => exact (List.mem_append.1 ha).imp_right fun ha => ⟨rfl, ha⟩

end Plan

/-- **A plan does nothing to a field that is set where what is reached does nothing.** -/
theorem Plan.run_of_reached {α : Type} {f : α → Applier} {p : Plan α}
    (hset : field.isZeroIn r = false)
    (h : ∀ a ∈ p.reached ctx.scope, f a field r ctx = Applier.skip field r ctx) :
    p.run f field r ctx = Applier.skip field r ctx := by
  induction p with
  | nothing => rfl
  | «scoped» byScope fallback =>
    simp only [run]
    split
    · next a ha => exact h a (Option.mem_toList.2 ha)
    · rfl
  | compose op left right ihleft ihright =>
    cases op with
    | fallback =>
      -- the left side leaves the field set, so that the right side does not count
      simp only [run, Applier.followed, ihleft h, Applier.skip, ErrorBatch.capture,
        Composition.goesOn, hset]
      rfl
    | both =>
      obtain ⟨hleft, hright⟩ := List.forall_mem_append.1 h
      exact Applier.followed_eq_skip _ (ihleft hleft) (ihright hright)

/-! ## Plans of defaults -/

/-- A plan of defaults does nothing to a field that is set: whatever it reaches is for a field that
is zero. -/
def Plan.KeepsSet (p : Plan Tool.Default) (scope : String) : Prop :=
  ∀ d ∈ p.reached scope, d.onlyIfZero = true

instance (p : Plan Tool.Default) (scope : String) : Decidable (p.KeepsSet scope) :=
  inferInstanceAs (Decidable (∀ d ∈ p.reached scope, d.onlyIfZero = true))

namespace Plan

theorem run_of_keepsSet {p : Plan Tool.Default} (h : p.KeepsSet ctx.scope)
    (hset : field.isZeroIn r = false) (fill : Tool.Filling → Applier) :
    p.run (Tool.Default.filledBy fill) field r ctx = Applier.skip field r ctx :=
  run_of_reached hset fun d hd => Tool.Default.filledBy_eq_skip (h d hd) hset

/-- Takes all attributes from a record, so that no field of it can be read. -/
def emptying : Applier := fun _ r ctx => ⟨⟨r.info, []⟩, ctx, .ok ()⟩

theorem read?_emptied (field : Field) (info : TypeInfo) : field.read? ⟨info, []⟩ = none := by
  rw [Field.read?, Record.readPath?, Record.resolvePath?]
  rcases splitLocation field.location with ⟨_ | ⟨step, way⟩, name⟩ <;> rfl

theorem isZeroIn_emptied (field : Field) (info : TypeInfo) :
    field.isZeroIn ⟨info, []⟩ = true := by
  rw [Field.isZeroIn, read?_emptied]
  rfl

/-- A record from which all has been taken stays as it is when fields are emptied. -/
theorem run_emptying_emptied (p : Plan Tool.Default) (info : TypeInfo) :
    p.run (Tool.Default.filledBy fun _ => emptying) field ⟨info, []⟩ ctx =
      ⟨⟨info, []⟩, ctx, .ok ()⟩ := by
  induction p with
  | nothing => rfl
  | «scoped» byScope fallback =>
    simp only [run]
    split
    · next d _ =>
      rw [Tool.Default.filledBy]
      split
      · exact if_pos (isZeroIn_emptied field info)
      · rfl
    · rfl
  | compose op left right ihleft ihright =>
    simp only [run, Applier.followed, ihleft, ihright, ErrorBatch.capture]
    split <;> rfl

/-- Where fields are filled by taking all attributes away, a plan that does not keep a field that is
set takes them. -/
theorem run_emptying {p : Plan Tool.Default} (hset : field.isZeroIn r = false)
    (h : ¬ p.KeepsSet ctx.scope) :
    p.run (Tool.Default.filledBy fun _ => emptying) field r ctx =
      ⟨⟨r.info, []⟩, ctx, .ok ()⟩ := by
  induction p with
  | nothing => exact absurd (by simp [KeepsSet, reached]) h
  | «scoped» byScope fallback =>
    simp only [run]
    split
    · next d hd =>
      have hd : d.onlyIfZero = false := by simpa [KeepsSet, reached, hd] using h
      rw [Tool.Default.filledBy, if_neg (by simp [hd])]
      rfl
    · next hnone => exact absurd (by simp [KeepsSet, reached, hnone]) h
  | compose op left right ihleft ihright =>
    by_cases hleft : left.KeepsSet ctx.scope
    · cases op with
      | fallback => exact absurd hleft h
      | both =>
        -- the left side leaves all as it was, so that the right side meets the field set
        have hright : ¬ right.KeepsSet ctx.scope := fun hright =>
          h (List.forall_mem_append.2 ⟨hleft, hright⟩)
        simp only [run, Applier.followed, run_of_keepsSet hleft hset, Applier.skip,
          Composition.goesOn, if_true, ihright hright, ErrorBatch.capture]
        rfl
    · -- whether or not the right side counts, nothing is left for it to take
      simp only [run, Applier.followed, ihleft hleft, run_emptying_emptied, ErrorBatch.capture]
      split <;> rfl

/-- **Which plans keep a field that is set**, whatever they would fill it with: those that reach
nothing but what is for a field that is zero. -/
theorem keepsSet_iff {p : Plan Tool.Default} (hset : field.isZeroIn r = false) :
    p.KeepsSet ctx.scope ↔ ∀ fill,
      field.read? (p.run (Tool.Default.filledBy fill) field r ctx).record = field.read? r := by
  constructor
  · intro h fill
    rw [run_of_keepsSet h hset]
    rfl
  · intro h
    by_contra hne
    have hread := h fun _ => emptying
    rw [run_emptying hset hne, read?_emptied] at hread
    simp [Field.isZeroIn, ← hread] at hset

end Plan

/-! ## Directives that begin with a question mark -/

namespace Directive

/-- The configurations that a directive reaches while the field stays set. -/
def reachedConfigs : Directive → List String
  | .segments ss => ss.map Segment.config
  | .oneSided _ _ => []
  | .compose left .fallback _ => left.map Segment.config
  | .compose left .both right => left.map Segment.config ++ reachedConfigs right

section Reached

variable {α : Type} {P : α → Prop} {aliases : Aliases}
  {leaf : String → String → Except Error (Option α)}

/-- Whatever a plan reaches has a property that each meaning of the configurations has that its
directive reaches. -/
theorem forall_reached_plan {d : Directive} {p : Plan α}
    (hleaf : ∀ config ∈ d.reachedConfigs, ∀ {scope meaning},
      leaf scope config = .ok (some meaning) → P meaning)
    (h : d.plan aliases leaf = .ok p) (scope : String) : ∀ a ∈ p.reached scope, P a := by
  induction d generalizing p with
  | segments ss =>
    intro a ha
    exact (each_segmentsPlan hleaf h).of_mem_reached ha
  | oneSided text op => cases h
  | compose left op right ih =>
    obtain ⟨l, hl, h⟩ := bind_eq_ok_iff.1 h
    obtain ⟨r, hr, h⟩ := bind_eq_ok_iff.1 h
    cases h
    have hleft : ∀ config ∈ left.map Segment.config, ∀ {scope meaning},
        leaf scope config = .ok (some meaning) → P meaning := by
      intro config hconfig
      refine hleaf config ?_
      cases op with
      | fallback => exact hconfig
      | both => exact List.mem_append_left _ hconfig
    intro a ha
    rcases Plan.mem_reached_composed ha with hmem | ⟨rfl, hmem⟩
    · exact (each_segmentsPlan hleft hl).of_mem_reached hmem
    · exact ih (fun config hconfig => hleaf config (List.mem_append_right _ hconfig)) hr a hmem

end Reached

variable {w rest : List Char}

/-- A backslash is in no text of blanks before a question mark, so that such a text is a
configuration as it stands. -/
theorem unescape_question (hw : Text.Blanks w) (rest : List Char) :
    unescape (w ++ '?' :: rest) = w ++ '?' :: unescape rest := by
  induction w with
  | nil =>
    rw [List.nil_append, unescape.eq_def]
    rfl
  | cons c w ih =>
    have hc : c ≠ '\\' := (ne_of_mem_question hw (by simp)).1
    rw [List.cons_append, unescape.eq_def]
    simp only [hc, if_false]
    rw [ih fun d hd => hw d (List.mem_cons_of_mem c hd), List.cons_append]

/-- What begins with a question mark, blanks aside, begins with a configuration that does. -/
theorem exists_readSegments_question (hw : Text.Blanks w) (rest : List Char) :
    ∃ config later, (readSegments (w ++ '?' :: rest)).map Segment.config = config :: later ∧
      Tool.IsGuarded config := by
  have hplain : ∀ c ∈ w ++ ['?'], c ≠ '\\' ∧ c ≠ ';' := fun c hc =>
    ⟨(ne_of_mem_question hw hc).1, (ne_of_mem_question hw hc).2.1⟩
  obtain ⟨part, later, hrest⟩ := exists_splitUnescaped ';' rest
  have hblank : Text.isBlank '?' = false := by decide
  refine ⟨String.ofList (w ++ '?' :: unescape part), (later.map readSegment).map Segment.config,
    ?_, ?_⟩
  · rw [readSegments, List.append_cons, splitUnescaped_append hplain, hrest, List.modifyHead_cons,
      List.map_cons, List.map_cons, readSegment, ← List.append_cons]
    simp only [splitScope_question hw, unescape_question hw]
  · rw [Tool.IsGuarded, String.toList_ofList, Text.trimStart_blanks_append hw,
      Text.trimStart_cons hblank]
    rfl

/-- **The first configuration that a directive reaches begins with a question mark** where the
directive does. -/
theorem exists_reachedConfigs_question {α : Type} {aliases : Aliases}
    {leaf : String → String → Except Error (Option α)} {text : String} {p : Plan α}
    (htext : (Text.trimStart text.toList).head? = some '?')
    (h : (read text).plan aliases leaf = .ok p) :
    ∃ config later, (read text).reachedConfigs = config :: later ∧ Tool.IsGuarded config := by
  obtain ⟨rest, hrest⟩ := List.head?_eq_some_iff.1 htext
  obtain ⟨w, hw, hsplit⟩ := Text.exists_blanks_append_trimStart text.toList
  rw [hrest] at hsplit
  cases hcomposed : splitComposition? text.toList with
  | none =>
    rw [read_eq_segments hcomposed, hsplit]
    exact exists_readSegments_question hw rest
  | some found =>
    obtain ⟨left, op, right⟩ := found
    by_cases hblank : Text.Blanks left ∨ Text.Blanks right
    · rw [read_eq_oneSided hcomposed hblank] at h
      cases h
    · obtain ⟨hleft, hright⟩ := not_or.1 hblank
      -- the question mark stands before the operator, since not all is blank there
      obtain ⟨before, hbefore⟩ : ∃ before, left = w ++ '?' :: before := by
        have htextLeft := (splitComposition?_eq_some_iff.1 hcomposed).1
        rw [hsplit, List.append_eq_append_iff] at htextLeft
        rcases htextLeft with ⟨more, rfl, hmore⟩ | ⟨more, rfl, -⟩
        · cases more with
          | nil => exact absurd (by simpa using hw) hleft
          | cons c more =>
            obtain ⟨rfl, -⟩ := List.cons.inj hmore
            exact ⟨more, rfl⟩
        · exact absurd (fun c hc => hw c (List.mem_append_left _ hc)) hleft
      obtain ⟨config, later, hconfigs, hguarded⟩ := exists_readSegments_question hw before
      rw [(read_eq_compose hcomposed hleft hright).1, hbefore]
      cases op with
      | fallback => exact ⟨config, later, hconfigs, hguarded⟩
      | both =>
        refine ⟨config, later ++ (read (String.ofList right)).reachedConfigs, ?_, hguarded⟩
        rw [reachedConfigs, hconfigs, List.cons_append]

end Directive

/-! ## What the field says of itself -/

namespace FieldTable

variable {registry : Registry} {tools : Dict Tool} {t : RecordType} {table : FieldTable} {f : Field}

/-- A field knows its default directive by the tag of the default tool, and that its default is
skipped by the first character of the tag that is not blank. -/
theorem default_of_mem_fields (h : build registry tools t = .ok table) (hf : f ∈ table.fields) :
    f.default? = f.tag? Tool.defaultName ∧
      f.bypassIfSet = (f.default?.any fun tag =>
        (Text.trimStart tag.toList).head? == some '?') := by
  rw [fields_of_build h] at hf
  obtain ⟨s, -, rfl⟩ := List.mem_map.1 hf
  rw [fieldOf_eq]
  refine ⟨rfl, ?_⟩
  simp only [bareField]
  cases s.declaration.tag? Tool.defaultName <;> rfl

end FieldTable

theorem Tool.isOnly_default : default.IsOnly Catalog.new.tools := rfl

namespace Catalog

open Tool

variable {c : Catalog} {t : RecordType} {table : FieldTable} {f : Field} {applier : Applier}

/-- **A field whose tag begins with a question mark** has a default of which the first configuration
begins with one.  If each configuration that is reached begins with one, the default keeps a field
that is set in every scope.  In a scope in which it does, it leaves the record and the context as
they are; and only there is a field that is set kept whatever the defaults would fill it with. -/
theorem reached_of_bypassIfSet (htool : default.IsOnly c.tools) (htable : c.introspect t = .ok table)
    (hbinding : (f, applier) ∈ table.bucket defaultName) (hflag : f.bypassIfSet = true) :
    ∃ directive plan config later, f.default? = some directive ∧
      defaultPlan c.registry f directive = .ok plan ∧ applier = plan.run Default.applier ∧
      (Directive.read directive).reachedConfigs = config :: later ∧ IsGuarded config ∧
      ((∀ config ∈ later, IsGuarded config) → ∀ scope, plan.KeepsSet scope) ∧
      ∀ r ctx, (∃ v, f.read? r = some v ∧ v.isZero = false) →
        (plan.KeepsSet ctx.scope → applier f r ctx = ⟨r, ctx, .ok ()⟩) ∧
        (plan.KeepsSet ctx.scope ↔
          ∀ fill, f.read? (plan.run (Default.filledBy fill) f r ctx).record = f.read? r) := by
  obtain ⟨hf, e, he, hname, happlier⟩ := FieldTable.exists_tool_of_mem_bucket htable hbinding
  obtain rfl := htool.eq_of_name_eq he hname
  obtain ⟨hdefault, hbypass⟩ := FieldTable.default_of_mem_fields htable hf
  rw [hbypass, Option.any_eq_true] at hflag
  obtain ⟨directive, hdirective, hquestion⟩ := hflag
  have htag : f.tag? default.name = some directive := hdefault.symm.trans hdirective
  dsimp only at happlier
  rw [htag] at happlier
  obtain ⟨plan, hplan, hrun⟩ := map_eq_ok_iff.1 happlier
  obtain rfl := Plan.run_of_applier? hrun
  obtain ⟨config, later, hconfigs, hguarded⟩ :=
    Directive.exists_reachedConfigs_question (eq_of_beq hquestion) hplan
  refine ⟨directive, plan, config, later, hdirective, hplan, rfl, hconfigs, hguarded, ?_, ?_⟩
  · intro hlater scope
    refine Directive.forall_reached_plan (fun config hconfig scope d hd => ?_) hplan scope
    rw [hconfigs] at hconfig
    obtain ⟨d', hread, heq⟩ := map_eq_ok_iff.1 hd
    cases heq
    exact onlyIfZero_of_readDefault (List.forall_mem_cons.2 ⟨hguarded, hlater⟩ config hconfig) hread
  · intro r ctx hset
    have hzero := Field.isZeroIn_eq_false_iff.2 hset
    refine ⟨fun hkeeps => ?_, Plan.keepsSet_iff hzero⟩
    rw [Default.applier_eq_filledBy, Plan.run_of_keepsSet hkeeps hzero]
    rfl

/-- What is done to a field under the name of a tool is found by evaluation. -/
theorem exists_of_any_bucket {name : String} {P : Field → Applier → Bool}
    (h : (c.introspect t).toOption.any
      (fun table => (table.bucket name).any fun b => P b.1 b.2) = true) :
    ∃ table f applier, c.introspect t = .ok table ∧ (f, applier) ∈ table.bucket name ∧
      P f applier = true := by
  cases htable : c.introspect t with
  | error e =>
    rw [htable] at h
    cases h
  | ok table =>
    rw [htable] at h
    obtain ⟨b, hb, hholds⟩ := List.any_eq_true.1 h
    exact ⟨table, b.1, b.2, rfl, hb, hholds⟩

/-- A type with one text and a default for it. -/
def textType (directive : String) : RecordType :=
  ⟨Reference.info "Text" [], [Reference.plain "field" .text [(defaultName, directive)]]⟩

/-- A record of the type in which the text is set. -/
def textRecord (directive : String) : Record :=
  (textType directive).zero.put ⟨⟨.text, true, true⟩, "kept"⟩ "field" []

/-- What the field of the text reads as. -/
theorem read?_textRecord {f : Field} (hf : f.location = "field") (directive : String) :
    f.read? (textRecord directive) = some (.text "kept") := by
  rw [Field.read?, hf]
  rfl

/-- A default that begins with a question mark in every scope keeps a text. -/
theorem reached_of_bypassIfSet_text :
    ∃ table f applier, new.introspect (textType "?=a;create:?=b") = .ok table ∧
      (f, applier) ∈ table.bucket defaultName ∧ f.bypassIfSet = true ∧
      f.read? (textRecord "?=a;create:?=b") = some (.text "kept") ∧
      ∀ ctx, applier f (textRecord "?=a;create:?=b") ctx =
        ⟨textRecord "?=a;create:?=b", ctx, .ok ()⟩ := by
  obtain ⟨table, f, applier, htable, hbinding, hchecked⟩ :=
    @exists_of_any_bucket new (textType "?=a;create:?=b") defaultName
      (fun f _ => f.bypassIfSet && f.location == "field" && f.default? == some "?=a;create:?=b")
      (by decide +kernel)
  simp only [Bool.and_eq_true, beq_iff_eq] at hchecked
  obtain ⟨⟨hflag, hlocation⟩, hdefault⟩ := hchecked
  have hread := read?_textRecord hlocation "?=a;create:?=b"
  refine ⟨table, f, applier, htable, hbinding, hflag, hread, fun ctx => ?_⟩
  obtain ⟨directive, plan, config, later, hdirective, -, -, hconfigs, -, hkeeps, hset⟩ :=
    reached_of_bypassIfSet isOnly_default htable hbinding hflag
  obtain rfl := Option.some.inj (hdefault.symm.trans hdirective)
  have hreached : (Directive.read "?=a;create:?=b").reachedConfigs = ["?=a", "?=b"] := by
    decide +kernel
  obtain ⟨-, rfl⟩ := List.cons.inj (hreached.symm.trans hconfigs)
  exact (hset _ ctx ⟨_, hread, by decide⟩).1 (hkeeps (by decide) ctx.scope)

/-- A default that begins with a question mark, but not for the scope in which something is created,
overwrites a text there. -/
theorem not_kept_text :
    ∃ table f applier, new.introspect (textType "?=a;create:=b") = .ok table ∧
      (f, applier) ∈ table.bucket defaultName ∧ f.bypassIfSet = true ∧
      f.read? (textRecord "?=a;create:=b") = some (.text "kept") ∧
      f.read? (applier f (textRecord "?=a;create:=b") (Context.empty.setScope "create")).record =
        some (.text "b") := by
  obtain ⟨table, f, applier, htable, hbinding, hchecked⟩ :=
    @exists_of_any_bucket new (textType "?=a;create:=b") defaultName
      (fun f applier => f.bypassIfSet && f.location == "field" &&
        (f.read? (applier f (textRecord "?=a;create:=b")
          (Context.empty.setScope "create")).record).any fun v => v.eq (.text "b"))
      (by decide +kernel)
  simp only [Bool.and_eq_true, beq_iff_eq, Option.any_eq_true] at hchecked
  obtain ⟨⟨hflag, hlocation⟩, v, hread, heq⟩ := hchecked
  obtain rfl := Value.eq_of_eq rfl heq
  exact ⟨table, f, applier, htable, hbinding, hflag, read?_textRecord hlocation _, hread⟩

end Catalog

end FieldRules
