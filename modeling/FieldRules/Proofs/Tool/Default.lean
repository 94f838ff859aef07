import FieldRules.Tool.Default
import FieldRules.Reference
import FieldRules.Proofs.FieldType
import FieldRules.Proofs.Record.Path

/-!
# Fixed values that do not fit

The literal of a default and the value of a constant are converted to the kind of their field when
the directive is read, and what does not convert is refused there.  Only the conversion to the type
of the field shows whether the value can be stored, and that is made when a record is filled.  The
two agree for the types that store whatever has the form of their kind: not for an integer narrower
than a word, nor for a list or a dictionary whose items are not arbitrary values.

## Main definitions

* `Record.Holds` — a record has a field of a type at a location.
* `Tool.StoresAccepted` — what is accepted for fields of a type can be stored in every record.

## Main statements

* `Tool.result_of_holds` — what is accepted is stored, or it shows a mistaken declaration.
* `Tool.storesAccepted_iff` — the types whose records store what is accepted.
-/

namespace FieldRules

/-- A record has a field of a type at a location, and it can be assigned. -/
def Record.Holds (r : Record) (location : String) (t : FieldType) : Prop :=
  ∃ cell, r.locate? location = some cell ∧ cell.slot.type = t ∧ cell.slot.isSettable = true

namespace Tool

/-- What is accepted for a field of a type when its directive is read can be stored in every record
that has the field. -/
def StoresAccepted (t : FieldType) (read : Field → Except Error Filling) : Prop :=
  ∀ field filling, field.kind = t.kind → field.isOptional = t.isOptional →
    read field = .ok filling → ∀ r ctx, r.Holds field.location t →
      (filling.applier field r ctx).result = .ok ()

variable {t : FieldType} {field : Field} {filling : Filling} {v : Value} {r : Record}

/-! ## What is accepted -/

/-- An accepted literal is a fixed value of the form of the field's kind. -/
theorem exists_of_fixedLiteral {literal : String} (h : fixedLiteral literal field = .ok filling) :
    ∃ v, filling = .fixed v ∧ v.isOf field.kind = true := by
  rw [fixedLiteral] at h
  cases hv : Value.coerceText literal field.kind with
  | error misfit => simp [hv] at h
  | ok v =>
    simp only [hv, Except.ok.injEq] at h
    exact ⟨v, h.symm, Value.isOf_of_coerceText hv⟩

/-- An accepted constant is a fixed value of the form of the field's kind, or it leaves an optional
field absent. -/
theorem exists_of_fixedConstant {constant : Value}
    (h : fixedConstant constant field = .ok filling) :
    ∃ v, filling = .fixed v ∧
      (v.isOf field.kind = true ∨ (field.isOptional = true ∧ v = .null)) := by
  rw [fixedConstant] at h
  cases hv : constant.coerce field.kind field.isOptional with
  | error misfit => simp [hv] at h
  | ok v =>
    simp only [hv, Except.ok.injEq] at h
    exact ⟨v, h.symm, (Value.isOf_of_coerce hv).imp_right fun h => ⟨h.1, h.2.2⟩⟩

/-- A value of the form of the field's kind is accepted as a constant. -/
theorem fixedConstant_of_isOf (h : v.isOf field.kind = true) :
    fixedConstant v field = .ok (.fixed v) := by
  rw [fixedConstant, Value.coerce_of_isOf h]

/-! ## What is stored -/

theorem result_fixed_of_ok {content : t.Content} (hr : r.Holds field.location t)
    (hv : t.ofValue v = .ok content) (ctx : Context) :
    ((Filling.fixed v).applier field r ctx).result = .ok () := by
  obtain ⟨cell, hcell, rfl, hset⟩ := hr
  simp only [Filling.applier, Applier.value, Applier.write, Field.store_of_ok hcell hset hv]

theorem result_fixed_of_error {misfit : Misfit} (hr : r.Holds field.location t)
    (hv : t.ofValue v = .error misfit) (ctx : Context) :
    ((Filling.fixed v).applier field r ctx).result =
      .error (.field field.location (.configuration misfit.message)) := by
  obtain ⟨cell, hcell, rfl, hset⟩ := hr
  simp only [Filling.applier, Applier.value, Applier.write, Field.store_of_error hcell hset hv]

/-- A fixed value is stored in a record that has the field, or it shows that the field's declaration
is mistaken. -/
theorem result_of_holds (hr : r.Holds field.location t) (v : Value) (ctx : Context) :
    ((Filling.fixed v).applier field r ctx).result = .ok () ∨
      ∃ misfit : Misfit, ((Filling.fixed v).applier field r ctx).result =
        .error (.field field.location (.configuration misfit.message)) := by
  cases hv : t.ofValue v with
  | ok content => exact .inl (result_fixed_of_ok hr hv ctx)
  | error misfit => exact .inr ⟨misfit, result_fixed_of_error hr hv ctx⟩

/-! ## When what is accepted is stored -/

theorem storesAccepted_fixedLiteral (ht : t.storesKind = true) (literal : String) :
    StoresAccepted t (fixedLiteral literal) := by
  intro field filling hkind _ hread r ctx hr
  obtain ⟨v, rfl, hform⟩ := exists_of_fixedLiteral hread
  obtain ⟨content, hv⟩ := FieldType.exists_ofValue_of_isOf ht (hkind ▸ hform)
  exact result_fixed_of_ok hr hv ctx

theorem storesAccepted_fixedConstant (ht : t.storesKind = true) (constant : Value) :
    StoresAccepted t (fixedConstant constant) := by
  intro field filling hkind hoptional hread r ctx hr
  obtain ⟨v, rfl, hform | ⟨habsent, rfl⟩⟩ := exists_of_fixedConstant hread
  · obtain ⟨content, hv⟩ := FieldType.exists_ofValue_of_isOf ht (hkind ▸ hform)
    exact result_fixed_of_ok hr hv ctx
  · -- nothing at all is stored only where the type is an optional
    rw [hoptional] at habsent
    cases t with
    | optional item => exact result_fixed_of_ok hr (FieldType.ofValue_optional_of_isNull rfl) ctx
    | _ => cases habsent

/-- A record with one field, of a given type. -/
def recordOf (t : FieldType) : Record :=
  RecordType.zero ⟨Reference.info "Single" [], [Reference.plain "field" t []]⟩

theorem holds_recordOf (t : FieldType) : (recordOf t).Holds "field" t :=
  ⟨⟨⟨t, true, true⟩, t.zero⟩, rfl, rfl, rfl⟩

/-- A value of the form of the kind that the type refuses is not stored in the record with one
field. -/
theorem not_storesAccepted {misfit : Misfit} {read : Field → Except Error Filling}
    (hread : read (Field.untagged "field" t.kind t.isOptional) = .ok (.fixed v))
    (hv : t.ofValue v = .error misfit) : ¬ StoresAccepted t read := by
  intro hstores
  have hok := hstores _ _ rfl rfl hread (recordOf t) .empty (holds_recordOf t)
  have herror : ((Filling.fixed v).applier (Field.untagged "field" t.kind t.isOptional)
      (recordOf t) .empty).result = .error (.field "field" (.configuration misfit.message)) :=
    result_fixed_of_error (holds_recordOf t) hv .empty
  rw [hok] at herror
  cases herror

/-- **What is accepted when a directive is read can be stored in every record exactly for the types
that store whatever has the form of their kind**, both for literals and for constants. -/
theorem storesAccepted_iff (t : FieldType) :
    ((∀ literal, StoresAccepted t (fixedLiteral literal)) ↔ t.storesKind = true) ∧
      ((∀ constant, StoresAccepted t (fixedConstant constant)) ↔ t.storesKind = true) := by
  cases ht : t.storesKind with
  | true =>
    exact ⟨⟨fun _ => rfl, fun _ => storesAccepted_fixedLiteral ht⟩,
      ⟨fun _ => rfl, fun _ => storesAccepted_fixedConstant ht⟩⟩
  | false =>
    obtain ⟨v, misfit, htext, -, hrefused⟩ := FieldType.exists_refused ht
    have hliteral : fixedLiteral t.refusedText (Field.untagged "field" t.kind t.isOptional) =
        .ok (.fixed v) := by
      simp [fixedLiteral, Field.untagged, htext]
    have hconstant : fixedConstant v (Field.untagged "field" t.kind t.isOptional) =
        .ok (.fixed v) :=
      fixedConstant_of_isOf (Value.isOf_of_coerceText htext)
    exact ⟨⟨fun hall => absurd (hall t.refusedText) (not_storesAccepted hliteral hrefused), nofun⟩,
      ⟨fun hall => absurd (hall v) (not_storesAccepted hconstant hrefused), nofun⟩⟩

/-- The literal 999 is accepted for a field of eight bits, and a record with such a field refuses
it. -/
theorem not_storesAccepted_uint8 :
    fixedLiteral "999" (Field.untagged "field" .uint false) = .ok (.fixed (.uint 999)) ∧
      (recordOf (.uint .w8)).Holds "field" (.uint .w8) ∧
      ((Filling.fixed (.uint 999)).applier (Field.untagged "field" .uint false)
        (recordOf (.uint .w8)) .empty).result =
          .error (.field "field" (.configuration "999 does not fit in u8")) ∧
      ¬ StoresAccepted (.uint .w8) (fixedLiteral "999") := by
  have hliteral : fixedLiteral "999" (Field.untagged "field" .uint false) =
      .ok (.fixed (.uint 999)) := by
    have hread : Value.coerceText "999" .uint = .ok (.uint 999) :=
      Value.coerceText_of_eq rfl (by decide)
    simp [fixedLiteral, Field.untagged, hread]
  have hmessage : (Misfit.tooWide (toString (999 : UInt64).toNat)
      ("u" ++ toString Width.w8.bits)).message = "999 does not fit in u8" := by
    decide
  refine ⟨hliteral, holds_recordOf _, ?_, not_storesAccepted hliteral rfl⟩
  exact hmessage ▸ result_fixed_of_error (holds_recordOf (.uint .w8)) rfl .empty

end Tool

end FieldRules
