import FieldRules.Proofs.Directive.Meanings
import FieldRules.Proofs.Directive.Plan
import FieldRules.Proofs.Text.Blank
import FieldRules.Proofs.Tool.Default

/-!
# Defaults that keep what is set

A question mark in front of a configuration keeps a field that is set.  Where every configuration of
a directive begins with one, on every side of its compositions, the directive keeps the field as a
whole: nothing in it is done in any scope, so that no other field and nothing in the context changes
either.

## Main definitions

* `Tool.IsGuarded` — a configuration begins with a question mark.
* `Tool.Default.filledBy` — defaults that fill fields in a way of their own.

## Main statements

* `Plan.run_of_each` — a plan whose meanings do nothing does nothing.
* `Tool.default_keeps_set` — guarded defaults leave a record with a set field alone.
-/

namespace FieldRules

variable {field : Field} {r : Record} {ctx : Context}

/-- Two appliers that do nothing do nothing one after the other. -/
theorem Applier.followed_eq_skip {first second : Applier} (goesOn : Field → Record → Bool)
    (hfirst : first field r ctx = skip field r ctx)
    (hsecond : second field r ctx = skip field r ctx) :
    first.followed goesOn second field r ctx = skip field r ctx := by
  simp only [followed, hfirst, skip, hsecond, ErrorBatch.capture]
  split <;> rfl

/-- **A plan whose meanings do nothing does nothing.** -/
theorem Plan.run_of_each {α : Type} {f : α → Applier} {p : Plan α}
    (h : p.Each fun a => f a field r ctx = Applier.skip field r ctx) :
    p.run f field r ctx = Applier.skip field r ctx := by
  induction p with
  | nothing => rfl
  | «scoped» byScope fallback =>
    simp only [run]
    split
    · next a ha => exact h _ a ha
    · rfl
  | compose op left right ihleft ihright =>
    exact Applier.followed_eq_skip op.goesOn (ihleft h.1) (ihright h.2)

theorem Field.isZeroIn_eq_false_iff :
    field.isZeroIn r = false ↔ ∃ v, field.read? r = some v ∧ v.isZero = false := by
  rw [isZeroIn]
  cases field.read? r <;> simp

namespace Tool

variable {registry : Registry} {config directive : String} {applier : Applier}

/-- A configuration begins with a question mark, but for blanks in front. -/
def IsGuarded (config : String) : Prop := (Text.trimStart config.toList).head? = some '?'

instance (config : String) : Decidable (IsGuarded config) :=
  inferInstanceAs (Decidable ((Text.trimStart config.toList).head? = some '?'))

/-- What begins with a question mark is read as a default for a field that is zero. -/
theorem onlyIfZero_of_readDefault {d : Default} (hguarded : IsGuarded config)
    (h : readDefault registry field config = .ok d) : d.onlyIfZero = true := by
  rw [IsGuarded, ← Text.head?_trim] at hguarded
  simp only [readDefault] at h
  split at h
  · obtain ⟨filling, -, rfl⟩ := map_eq_ok_iff.1 h
    rfl
  · next hother =>
    obtain ⟨rest, hrest⟩ := List.head?_eq_some_iff.1 hguarded
    exact absurd hrest (hother rest)

/-- What is done for a configuration of the default tool where fields are filled in a given way. -/
def Default.filledBy (fill : Filling → Applier) (d : Default) : Applier :=
  if d.onlyIfZero then .ifZero (fill d.filling) else fill d.filling

theorem Default.applier_eq_filledBy : Default.applier = Default.filledBy Filling.applier := rfl

/-- A default for a field that is zero does nothing to a field that is set, whatever it would fill it
with. -/
theorem Default.filledBy_eq_skip {fill : Filling → Applier} {d : Default}
    (hd : d.onlyIfZero = true) (hset : field.isZeroIn r = false) :
    d.filledBy fill field r ctx = Applier.skip field r ctx := by
  rw [filledBy, if_pos hd]
  exact if_neg (by simp [hset])

theorem Default.applier_eq_skip {d : Default} (hd : d.onlyIfZero = true)
    (hset : field.isZeroIn r = false) : d.applier field r ctx = Applier.skip field r ctx := by
  rw [applier_eq_filledBy]
  exact filledBy_eq_skip hd hset

/-- **Guarded defaults keep what is set.**  Where every configuration of a directive that the default
tool accepts begins with a question mark, on every side of its compositions, the directive leaves a
record in which the field is set as it is, and the context too, in every scope and without an
error. -/
theorem default_keeps_set (h : default.applier registry field (some directive) = .ok (some applier))
    (hguarded : ∀ config ∈ (Directive.read directive).configs, IsGuarded config)
    (hset : ∃ v, field.read? r = some v ∧ v.isZero = false) (ctx : Context) :
    applier field r ctx = ⟨r, ctx, .ok ()⟩ := by
  obtain ⟨p, hp, happlier⟩ := map_eq_ok_iff.1 h
  have hzero : field.isZeroIn r = false := Field.isZeroIn_eq_false_iff.2 hset
  have hmeanings : p.Each fun d => d.applier field r ctx = Applier.skip field r ctx := by
    refine Directive.each_plan (fun config hconfig scope d hd => ?_) hp
    obtain ⟨d', hread, heq⟩ := map_eq_ok_iff.1 hd
    cases heq
    exact Default.applier_eq_skip (onlyIfZero_of_readDefault (hguarded config hconfig) hread) hzero
  rw [← Plan.run_of_applier? happlier, Plan.run_of_each hmeanings]
  rfl

/-- A registry with a function that counts in the context how often it is called. -/
def counting : Registry :=
  { Registry.empty with functions := [("$count", fun _ _ ctx =>
    let (n, ctx) := ctx.increment "count" 1
    (.ok (.int n), ctx))] }

/-- The record with one text, which is set. -/
def keptText : Record := (recordOf .text).put ⟨⟨.text, true, true⟩, "kept"⟩ "field" []

/-- Whether a tool accepts a tag is found by evaluation. -/
theorem exists_applier {answer : Except Error (Option Applier)}
    (h : answer.toOption.any Option.isSome = true) : ∃ applier, answer = .ok (some applier) := by
  match answer, h with
  | .ok (some applier), _ => exact ⟨applier, rfl⟩

/-- A directive with every sign of a composition, of which one belongs to a literal, keeps a text and
does not count. -/
theorem default_keeps_set_text :
    ∃ applier,
      default.applier counting (Field.untagged "field" .text false)
        (some "create:?=a\\?b; ?$count & ?$.other ? post: ?=c") = .ok (some applier) ∧
      (Field.untagged "field" .text false).read? keptText = some (.text "kept") ∧
      ∀ ctx, applier (Field.untagged "field" .text false) keptText ctx = ⟨keptText, ctx, .ok ()⟩ := by
  have hguarded : ∀ config ∈
      (Directive.read "create:?=a\\?b; ?$count & ?$.other ? post: ?=c").configs,
      IsGuarded config := by
    decide +kernel
  have hread : (Field.untagged "field" .text false).read? keptText = some (.text "kept") := rfl
  obtain ⟨applier, happlier⟩ : ∃ applier,
      default.applier counting (Field.untagged "field" .text false)
        (some "create:?=a\\?b; ?$count & ?$.other ? post: ?=c") = .ok (some applier) :=
    exists_applier (by decide +kernel)
  exact ⟨applier, happlier, hread,
    default_keeps_set happlier hguarded ⟨.text "kept", hread, by decide⟩⟩

end Tool

end FieldRules
