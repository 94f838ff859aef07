import FieldRules.Proofs.Text.Blank
import FieldRules.Proofs.Value.Equality
import FieldRules.Value.Coercion

/-!
# What coercion answers

A coerced value has the form of the kind it was converted to, unless nothing was stored where nothing
may be.  What has the form already is left as it is.

## Main definitions

* `Value.isOf` — whether a value has the form of a kind.

## Main statements

* `Value.isOf_of_coerceText`, `Value.isOf_of_coerce` — what is answered has the form.
* `Value.coerce_of_isOf` — what has the form is left as it is.
* `Value.coerce_coerce` — what was converted is converted to itself.
-/

namespace FieldRules.Value

/-- Whether a value has the form of a kind.  A record is carried by a map, and every value has the
form of `any`. -/
def isOf : Kind → Value → Bool
  | .bool, .bool _ => true
  | .int, .int _ => true
  | .uint, .uint _ => true
  | .float, .float _ => true
  | .text, .text _ => true
  | .bytes, .bytes _ => true
  | .list, .list _ => true
  | .map, .map _ => true
  | .record, .map _ => true
  | .custom, .custom _ => true
  | .any, _ => true
  | _, _ => false

variable {v w : Value} {kind : Kind} {isOptional : Bool} {s : String}

/-- What has the form of a kind is left as it is. -/
theorem coerce_of_isOf (h : v.isOf kind = true) : v.coerce kind isOptional = .ok v := by
  cases kind <;> cases v <;> cases h
  case any.null => simp [coerce, isNull]
  all_goals rfl

/-- Which exact value a text is read as is found by evaluation. -/
theorem coerceText_of_eq (hw : w.isExact = true)
    (h : (coerceText s kind).toOption.any (fun v => v.eq w) = true) :
    coerceText s kind = .ok w := by
  cases hread : coerceText s kind with
  | error misfit => simp [hread, Except.toOption] at h
  | ok v =>
    have heq : v.eq w = true := by simpa [hread, Except.toOption] using h
    rw [eq_of_eq hw heq]

theorem trim_of_any_eq_false (hclear : s.toList.any Text.isBlank = false) :
    Text.trim s.toList = s.toList :=
  Text.trim_of_forall fun c hc => eq_false_of_ne_true (List.any_eq_false.1 hclear c hc)

/-- A text without blanks is converted to the integer that it is read as. -/
theorem coerceText_int {i : Int64} (hclear : s.toList.any Text.isBlank = false)
    (hread : Number.readInt64 s.toList = .ok i) : coerceText s .int = .ok (.int i) := by
  simp only [coerceText, coerceScalarText?, trim_of_any_eq_false hclear, hread]

theorem coerceText_uint {u : UInt64} (hclear : s.toList.any Text.isBlank = false)
    (hread : Number.readUInt64 s.toList = .ok u) : coerceText s .uint = .ok (.uint u) := by
  simp only [coerceText, coerceScalarText?, trim_of_any_eq_false hclear, hread]

theorem isOf_of_acceptDocument (h : acceptDocument kind v = .ok w) : w.isOf kind = true := by
  cases v with
  | list items =>
    rw [acceptDocument] at h
    split at h
    · next hkind => cases h; rw [hkind]; rfl
    · cases h
  | map entries =>
    rw [acceptDocument] at h
    split at h
    · next hkind => cases h; rw [hkind]; rfl
    · cases h
  | _ => cases h

theorem isOf_of_coerceDocumentText {fuel : Nat}
    (h : coerceDocumentText fuel s kind = .ok w) : w.isOf kind = true := by
  induction fuel generalizing s with
  | zero => cases h
  | succ fuel ih =>
    rw [coerceDocumentText] at h
    split at h
    · cases h
    · exact ih h
    · exact isOf_of_acceptDocument h

/-- What a text is read as has the form of the kind. -/
theorem isOf_of_coerceText (h : coerceText s kind = .ok w) : w.isOf kind = true := by
  cases kind with
  | list => exact isOf_of_coerceDocumentText h
  | map => exact isOf_of_coerceDocumentText h
  | any => rfl
  | record => cases h
  | custom => cases h
  | text => cases h; rfl
  | bytes => cases h; rfl
  | _ =>
    simp only [coerceText, coerceScalarText?] at h
    split at h
    · cases h; rfl
    · cases h

theorem isOf_of_coerceInt {i : Int64} (h : coerceInt i kind = .ok w) : w.isOf kind = true := by
  cases kind <;> simp only [coerceInt] at h <;> try split at h
  all_goals cases h <;> rfl

theorem isOf_of_coerceUint {u : UInt64} (h : coerceUint u kind = .ok w) : w.isOf kind = true := by
  cases kind <;> simp only [coerceUint] at h <;> try split at h
  all_goals cases h <;> rfl

theorem isOf_of_coerceFloat {x : Number.Binary64} (h : coerceFloat x kind = .ok w) :
    w.isOf kind = true := by
  cases kind <;> simp only [coerceFloat] at h <;> repeat split at h
  all_goals cases h <;> rfl

/-- A text is converted by reading it, unless anything may be stored. -/
theorem coerce_text (hkind : kind ≠ .any) :
    (Value.text s).coerce kind isOptional = coerceText s kind := by
  simp [coerce, isNull, hkind]

/-- What a value is converted to has the form of the kind, unless nothing was stored where nothing
may be. -/
theorem isOf_of_coerce (h : v.coerce kind isOptional = .ok w) :
    w.isOf kind = true ∨ (isOptional = true ∧ v = .null ∧ w = .null) := by
  by_cases hany : kind = .any
  · exact .inl (by rw [hany]; rfl)
  cases v with
  | null =>
    cases isOptional with
    | true =>
      cases h
      exact .inr ⟨rfl, rfl, rfl⟩
    | false => simp [coerce, isNull, hany] at h
  | text s => exact .inl (isOf_of_coerceText (coerce_text hany ▸ h))
  | int i => exact .inl (isOf_of_coerceInt (by simpa [coerce, isNull, hany] using h))
  | uint u => exact .inl (isOf_of_coerceUint (by simpa [coerce, isNull, hany] using h))
  | float x => exact .inl (isOf_of_coerceFloat (by simpa [coerce, isNull, hany] using h))
  | bool b =>
    cases kind <;> simp [coerce, isNull] at h hany
    all_goals exact .inl (h ▸ rfl)
  | bytes b =>
    cases kind <;> simp [coerce, isNull] at h hany
    exact .inl (h ▸ rfl)
  | list items =>
    cases kind <;> simp [coerce, isNull] at h hany
    exact .inl (h ▸ rfl)
  | map entries =>
    cases kind <;> simp [coerce, isNull] at h hany
    all_goals exact .inl (h ▸ rfl)
  | custom c =>
    cases kind <;> simp [coerce, isNull] at h hany
    exact .inl (h ▸ rfl)

/-- What is stored where anything may be is the value itself. -/
theorem coerce_any (v : Value) (isOptional : Bool) : v.coerce .any isOptional = .ok v :=
  coerce_of_isOf rfl

/-- Only nothing is converted to nothing. -/
theorem isNull_of_coerce (hv : v.isNull = false) (h : v.coerce kind isOptional = .ok w) :
    w.isNull = false := by
  by_cases hany : kind = .any
  · rw [hany, coerce_any] at h
    cases h
    exact hv
  · rcases isOf_of_coerce h with hform | ⟨-, rfl, -⟩
    · cases w with
      | null => cases kind <;> first | exact absurd rfl hany | cases hform
      | _ => rfl
    · cases hv

/-- Whether a place may stay empty has no influence on what is not nothing. -/
theorem coerce_of_isNull_eq_false (hv : v.isNull = false) (isOptional isOptional' : Bool) :
    v.coerce kind isOptional = v.coerce kind isOptional' := by
  simp [coerce, hv]

/-- **What was converted is converted to itself.** -/
theorem coerce_coerce (h : v.coerce kind isOptional = .ok w) : w.coerce kind isOptional = .ok w := by
  rcases isOf_of_coerce h with hform | ⟨rfl, -, rfl⟩
  · exact coerce_of_isOf hform
  · rfl

end FieldRules.Value
