import FieldRules.Proofs.FieldType.Converted
import FieldRules.Proofs.FieldType.RoundTrip
import FieldRules.Proofs.Number.Literal
import FieldRules.Proofs.Text.Blank

/-!
# Scalars on their way through text

A truth value or an integer is converted to text by writing it down, and a text is converted back by
reading it.  What was written is read as it was, also with blanks around it.  Where only the text is
known, it is taken for a truth value first, for a signed integer next and for an unsigned one after
that, and so for the same value, if maybe at the other width.

## Main definitions

* `Value.IsScalar` — the truth values and the integers, by their kinds.
* `FieldType.isInteger` — the types of integers.

## Main statements

* `Value.IsScalar.coerceText_surrounded` — a written scalar is read back from among blanks.
* `Value.IsScalar.same_infer_display` — what a written scalar is taken for.
* `FieldType.ofValue_display` — what an attribute of integers stores for a written one.
* `Value.scalar_through_text` — all of it.
-/

namespace FieldRules

namespace Value

/-- The truth values and the integers, by their kinds. -/
inductive IsScalar : Kind → Value → Prop where
  | bool (b : Bool) : IsScalar .bool (.bool b)
  | int (i : Int64) : IsScalar .int (.int i)
  | uint (u : UInt64) : IsScalar .uint (.uint u)

variable {kind : Kind} {v : Value} {u : UInt64}

/-! ## Written scalars -/

theorem toList_display_int (i : Int64) : (display (.int i)).toList = Number.numeral i.toInt := rfl

theorem toList_display_uint (u : UInt64) :
    (display (.uint u)).toList = Number.numeral (u.toNat : Int) := rfl

theorem isBlank_of_mem_numeral {n : Int} {c : Char} (h : c ∈ Number.numeral n) :
    Text.isBlank c = false := by
  rcases Number.isDigit_of_mem_numeral h with hdigit | rfl
  · apply Text.isBlank_of_isAlphanum
    rw [Char.isAlphanum, hdigit, Bool.or_true]
  · rfl

theorem IsScalar.ne_any (h : IsScalar kind v) : kind ≠ .any := by
  cases h <;> decide

/-- There are no blanks in a written scalar. -/
theorem IsScalar.isBlank_of_mem_display (h : IsScalar kind v) :
    ∀ c ∈ v.display.toList, Text.isBlank c = false := by
  cases h with
  | bool b =>
    intro c hc
    have hletters : (display (.bool b)).toList.all Char.isAlphanum = true := by
      cases b <;> rfl
    exact Text.isBlank_of_isAlphanum (List.all_eq_true.1 hletters c hc)
  | int i =>
    intro c hc
    rw [toList_display_int] at hc
    exact isBlank_of_mem_numeral hc
  | uint u =>
    intro c hc
    rw [toList_display_uint] at hc
    exact isBlank_of_mem_numeral hc

/-- A scalar is converted to text by writing it down. -/
theorem IsScalar.coerce_text_display (h : IsScalar kind v) (isOptional : Bool) :
    v.coerce .text isOptional = .ok (.text v.display) := by
  cases h with
  | bool b => simp [coerce, isNull]
  | int i => simp [coerce, isNull, coerceInt]
  | uint u => simp [coerce, isNull, coerceUint]

/-! ## Reading them -/

/-- **A written scalar is read back**, whatever blanks stand around it. -/
theorem IsScalar.coerceText_surrounded (h : IsScalar kind v) {before after : String}
    (hbefore : Text.Blanks before.toList) (hafter : Text.Blanks after.toList) :
    coerceText (before ++ v.display ++ after) kind = .ok v := by
  have hclear := h.isBlank_of_mem_display
  have htrim : Text.trim (before ++ v.display ++ after).toList = v.display.toList := by
    rw [String.toList_append, String.toList_append, List.append_assoc]
    apply Text.trim_surrounded hbefore hafter
    · intro c hc
      exact hclear c (List.mem_of_mem_head? hc)
    · intro c hc
      exact hclear c (List.mem_of_getLast? hc)
  cases h with
  | bool b =>
    simp only [coerceText, coerceScalarText?, htrim]
    cases b <;> rfl
  | int i =>
    simp only [coerceText, coerceScalarText?, htrim, toList_display_int, Number.readInt64_numeral]
  | uint u =>
    simp only [coerceText, coerceScalarText?, htrim, toList_display_uint,
      Number.readUInt64_numeral]

/-- A written signed integer is taken for itself. -/
theorem infer_display_int (i : Int64) : infer (display (.int i)) = .int i := by
  simp only [infer, toList_display_int, Number.readBool?_numeral, Number.readInt64_numeral]

/-- A written unsigned integer is taken for a signed one where it can be. -/
theorem infer_display_uint (u : UInt64) :
    infer (display (.uint u)) =
      if u.toNat < 9223372036854775808 then .int (Int64.ofNat u.toNat) else .uint u := by
  simp only [infer, toList_display_uint, Number.readBool?_numeral,
    Number.readInt64_numeral_natCast]
  by_cases hfits : u.toNat < 9223372036854775808
  · simp only [if_pos hfits]
  · simp only [if_neg hfits, Number.readUInt64_numeral]

/-- Every scalar is the same as itself. -/
theorem IsScalar.same_self (h : IsScalar kind v) : v.same v = true := by
  cases h with
  | bool b => exact beq_self_eq_true b
  | int i => simp [same, numeric?, Numeric.compare?, Numeric.toInt?, Std.ReflCmp.compare_self]
  | uint u => simp [same, numeric?, Numeric.compare?, Numeric.toInt?, Std.ReflCmp.compare_self]

/-- An integer is the same at both widths. -/
theorem same_ofNat_uint (hfits : u.toNat < 9223372036854775808) :
    (Value.int (Int64.ofNat u.toNat)).same (.uint u) = true := by
  have hword : (Int64.ofNat u.toNat).toInt = u.toNat := Int64.toInt_ofNat_of_lt hfits
  simp [same, numeric?, Numeric.compare?, Numeric.toInt?, hword, Std.ReflCmp.compare_self]

/-- **What a written scalar is taken for is the same value.** -/
theorem IsScalar.same_infer_display (h : IsScalar kind v) : (infer v.display).same v = true := by
  cases h with
  | bool b => cases b <;> decide
  | int i =>
    rw [infer_display_int]
    exact (IsScalar.int i).same_self
  | uint u =>
    rw [infer_display_uint]
    split
    · next hfits => exact same_ofNat_uint hfits
    · exact (IsScalar.uint u).same_self

end Value

/-! ## Attributes -/

namespace FieldType

variable {t : FieldType}

/-- Whether a type is one of integers. -/
def isInteger : FieldType → Bool
  | .int _ => true
  | .uint _ => true
  | _ => false

/-- What an attribute of integers stores is a scalar of its kind. -/
theorem isScalar_toValue (ht : t.isInteger = true) (x : t.Content) :
    Value.IsScalar t.kind (t.toValue x) := by
  cases t with
  | int width => exact .int x.val
  | uint width => exact .uint x.val
  | _ => cases ht

/-- **An attribute of integers stores the integer** that is written in a text. -/
theorem ofValue_display (ht : t.isInteger = true) (x : t.Content) :
    t.ofValue (.text (t.toValue x).display) = .ok x := by
  have hx := isScalar_toValue ht x
  have hread : Value.coerceText (t.toValue x).display t.kind = .ok (t.toValue x) := by
    have hbare : Value.coerceText ("" ++ (t.toValue x).display ++ "") t.kind = .ok (t.toValue x) :=
      hx.coerceText_surrounded Text.blanks_nil Text.blanks_nil
    rwa [String.empty_append, String.append_empty] at hbare
  have hscalar : t.isScalar = true := by
    cases t with
    | int width => rfl
    | uint width => rfl
    | _ => cases ht
  rw [← ofValue_coerce, Value.coerce_text hx.ne_any, hread]
  exact roundTrips_of_isScalar hscalar x

end FieldType

namespace Value

/-- **Scalars come through text unharmed.**  A truth value or an integer of either width is converted
to the text that it is written as.  Among any blanks, that text is converted back to the value; on its
own it is taken for the same value; and for the text of an integer that an attribute stores, every
attribute of its type stores this integer. -/
theorem scalar_through_text :
    (∀ kind v, IsScalar kind v →
      (∀ isOptional, v.coerce .text isOptional = .ok (.text v.display)) ∧
      (∀ before after : String, Text.Blanks before.toList → Text.Blanks after.toList →
        ∀ isOptional, (Value.text (before ++ v.display ++ after)).coerce kind isOptional = .ok v) ∧
      (infer v.display).same v = true) ∧
    ∀ t : FieldType, t.isInteger = true → ∀ x : t.Content,
      (t.toValue x).coerce .text false = .ok (.text (t.toValue x).display) ∧
        t.ofValue (.text (t.toValue x).display) = .ok x := by
  constructor
  · intro kind v h
    refine ⟨h.coerce_text_display, ?_, h.same_infer_display⟩
    intro before after hbefore hafter isOptional
    rw [coerce_text h.ne_any]
    exact h.coerceText_surrounded hbefore hafter
  · intro t ht x
    exact ⟨(FieldType.isScalar_toValue ht x).coerce_text_display false,
      FieldType.ofValue_display ht x⟩

/-- The ends of the ranges: the least signed integer among blanks, the greatest unsigned one, and
the least one of eight bits. -/
theorem scalar_through_text_ends :
    IsScalar .int (.int (-9223372036854775808)) ∧ Text.Blanks "\u00a0".toList ∧
      Text.Blanks "\u3000".toList ∧ (FieldType.int .w8).isInteger = true ∧
      (Value.text "\u00a0-9223372036854775808\u3000").coerce .int false =
        .ok (.int (-9223372036854775808)) ∧
      (infer "18446744073709551615").same (.uint 18446744073709551615) = true ∧
      (FieldType.int .w8).ofValue (.text "-128") = .ok ⟨-128, by decide⟩ := by
  have hblanks : Text.Blanks "\u00a0".toList ∧ Text.Blanks "\u3000".toList := by decide
  obtain ⟨hscalars, hattributes⟩ := scalar_through_text
  obtain ⟨-, hleast, -⟩ := hscalars .int _ (.int (-9223372036854775808))
  obtain ⟨-, -, hgreatest⟩ := hscalars .uint _ (.uint 18446744073709551615)
  exact ⟨.int _, hblanks.1, hblanks.2, rfl,
    hleast "\u00a0" "\u3000" hblanks.1 hblanks.2 false, hgreatest,
    (hattributes (.int .w8) rfl ⟨-128, by decide⟩).2⟩

end Value

end FieldRules
