import FieldRules.Proofs.FieldType

/-!
# Storing what was converted before

A value is converted to the kind of a field before it is written, and storing it in an attribute of a
type converts it once more.  The first conversion does no harm: what it answers has the form of the
kind and is converted to itself, so that the type stores the same as it would have stored for the
value itself, and refuses it in the same words.

## Main statements

* `FieldType.ofValue_coerce` — a type stores the same for what was converted to its kind.
* `FieldType.coerce_settles` — what conversions answer, and that doing them twice changes nothing.
-/

namespace FieldRules.FieldType

variable {item : FieldType} {v : Value} {α : Type}

/-- Converting twice before going on is converting once. -/
theorem coerce_bind_coerce (v : Value) (kind : Kind) (isOptional : Bool)
    (next : Value → Except Misfit α) :
    (v.coerce kind isOptional >>= fun w => w.coerce kind isOptional >>= next) =
      v.coerce kind isOptional >>= next := by
  cases h : v.coerce kind isOptional with
  | error misfit => rfl
  | ok w =>
    show w.coerce kind isOptional >>= next = next w
    rw [Value.coerce_coerce h]
    rfl

/-- An optional stores for what was converted what its item stores for it. -/
theorem ofValue_optional_coerce (hv : v.isNull = false)
    (h : (v.coerce item.kind item.isOptional >>= item.ofValue) = item.ofValue v) :
    (v.coerce item.kind true >>= ofValue (.optional item)) = ofValue (.optional item) v := by
  rw [ofValue_optional hv, ← h, Value.coerce_of_isNull_eq_false hv true item.isOptional]
  cases hw : v.coerce item.kind item.isOptional with
  | error misfit => rfl
  | ok w => exact ofValue_optional (Value.isNull_of_coerce hv hw)

/-- **A type stores the same** for a value and for what the value is converted to for its kind. -/
theorem ofValue_coerce (t : FieldType) (v : Value) :
    (v.coerce t.kind t.isOptional >>= t.ofValue) = t.ofValue v := by
  induction t with
  | any => exact congrArg (· >>= ofValue .any) (Value.coerce_any v false)
  | optional item ih =>
    cases hv : v.isNull with
    | true =>
      cases v <;> cases hv
      rfl
    | false => exact ofValue_optional_coerce hv ih
  | bool => exact coerce_bind_coerce v .bool false _
  | int width => exact coerce_bind_coerce v .int false _
  | uint width => exact coerce_bind_coerce v .uint false _
  | single => exact coerce_bind_coerce v .float false _
  | double => exact coerce_bind_coerce v .float false _
  | text => exact coerce_bind_coerce v .text false _
  | list item => exact coerce_bind_coerce v .list false _
  | dict item => exact coerce_bind_coerce v .map false _

/-- **Conversions settle.**  What a value is converted to has the form of the kind, and is the value
itself where anything may be stored; or it is nothing, stored for nothing where nothing may be.  It is
converted to itself.  And a type stores for it what it stores for the value. -/
theorem coerce_settles (v : Value) :
    (∀ {kind : Kind} {isOptional : Bool} {w : Value}, v.coerce kind isOptional = .ok w →
      ((w.isOf kind = true ∧ (kind = .any → w = v)) ∨
        (w = .null ∧ v = .null ∧ (isOptional = true ∨ kind = .any))) ∧
      w.coerce kind isOptional = .ok w) ∧
    ∀ t : FieldType, (v.coerce t.kind t.isOptional >>= t.ofValue) = t.ofValue v := by
  refine ⟨fun {kind isOptional w} h => ⟨?_, Value.coerce_coerce h⟩, fun t => ofValue_coerce t v⟩
  rcases Value.isOf_of_coerce h with hform | ⟨hoptional, hv, hw⟩
  · refine .inl ⟨hform, ?_⟩
    rintro rfl
    rw [Value.coerce_any] at h
    exact (Except.ok.inj h).symm
  · exact .inr ⟨hw, hv, .inl hoptional⟩

/-- A text with a list inside two string literals is converted to that list, and every type of lists
stores the same for both. -/
theorem coerce_settles_quoted :
    Value.coerce (.text "\"\\\" [7, null] \\\"\"") .list false = .ok (.list [.int 7, .null]) ∧
    Value.isOf .list (.list [.int 7, .null]) = true ∧
    Value.coerce (.list [.int 7, .null]) .list false = .ok (.list [.int 7, .null]) ∧
    ∀ item : FieldType, ofValue (.list item) (.list [.int 7, .null]) =
      ofValue (.list item) (.text "\"\\\" [7, null] \\\"\"") := by
  have hread : Value.coerce (.text "\"\\\" [7, null] \\\"\"") .list false =
      .ok (.list [.int 7, .null]) := by
    rw [Value.coerce_text (by decide)]
    exact Value.coerceText_of_eq rfl (by decide +kernel)
  obtain ⟨hsettles, hstores⟩ := coerce_settles (.text "\"\\\" [7, null] \\\"\"")
  obtain ⟨hform, hagain⟩ := hsettles hread
  refine ⟨hread, (hform.resolve_right nofun).1, hagain, fun item => ?_⟩
  have h := hstores (.list item)
  have hoptional : (list item).isOptional = false := rfl
  rw [kind, hoptional, hread] at h
  exact h

end FieldRules.FieldType
