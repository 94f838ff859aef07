import FieldRules.Value.Document

/-!
# Values and their documents

A document becomes a value and a value a document.  Every document comes back from its value as it
was.  A value comes back from its document when JSON has its form and its number is classified as it
is: an integer is signed where it can be, and a floating number stays one, whole or not.

## Main definitions

* `Value.isDocument` — the values that documents stand for.

## Main statements

* `Value.toJson_ofJson` — a document comes back from its value.
* `Value.ofJson_toJson_iff` — which values come back from their documents.
* `Value.ofJson_inverse` — the two conversions undo each other.
-/

namespace FieldRules.Value

mutual

/-- Whether a value is one that some document stands for. -/
def isDocument : Value → Bool
  | .uint u => 9223372036854775808 ≤ u.toNat
  | .float x => x.isFinite
  | .bytes _ => false
  | .custom _ => false
  | .list items => areDocuments items
  | .map entries => entriesAreDocuments entries
  | _ => true

def areDocuments : List Value → Bool
  | [] => true
  | v :: rest => isDocument v && areDocuments rest

def entriesAreDocuments : List (String × Value) → Bool
  | [] => true
  | e :: rest => isDocument e.2 && entriesAreDocuments rest

end

/-! ## Numbers -/

section Numbers

variable {n : Int} {fits : -9223372036854775808 ≤ n ∧ n < 18446744073709551616}

/-- An integer is classified as a signed one where it can be. -/
theorem ofJson_integer_of_lt (h : n < 9223372036854775808) :
    ofJson (.number (.integer n fits)) = .int (Int64.ofInt n) := if_pos h

theorem ofJson_integer_of_le (h : 9223372036854775808 ≤ n) :
    ofJson (.number (.integer n fits)) = .uint (UInt64.ofNat n.toNat) := if_neg (Int.not_lt.2 h)

end Numbers

/-- A number comes back from its value. -/
theorem toJson_ofJson_number (n : Json.Number) : (ofJson (.number n)).toJson = .number n := by
  cases n with
  | integer n fits =>
    by_cases hsigned : n < 9223372036854775808
    · have hword : (Int64.ofInt n).toInt = n := Int64.toInt_ofInt_of_le (by omega) hsigned
      rw [ofJson_integer_of_lt hsigned]
      simp only [toJson, Json.ofInt64, hword]
    · have hword : ((UInt64.ofNat n.toNat).toNat : Int) = n := by
        rw [UInt64.toNat_ofNat']
        omega
      rw [ofJson_integer_of_le (Int.not_lt.1 hsigned)]
      simp only [toJson, Json.ofUInt64, hword]
  | float x finite => exact dif_pos finite

/-- A signed integer is classified as one. -/
theorem ofJson_ofInt64 (i : Int64) : ofJson (.ofInt64 i) = .int i := by
  rw [Json.ofInt64, ofJson_integer_of_lt i.toInt_lt, Int64.ofInt_toInt]

/-- An unsigned integer is classified as one when it does not fit the signed ones. -/
theorem ofJson_ofUInt64_iff {u : UInt64} :
    ofJson (.ofUInt64 u) = .uint u ↔ 9223372036854775808 ≤ u.toNat := by
  rw [Json.ofUInt64]
  by_cases hlarge : 9223372036854775808 ≤ u.toNat
  · rw [ofJson_integer_of_le (by omega), Int.toNat_natCast, UInt64.ofNat_toNat]
    exact iff_of_true rfl hlarge
  · rw [ofJson_integer_of_lt (by omega)]
    exact iff_of_false (by rintro ⟨⟩) hlarge

/-- A floating number stays one when JSON can write it. -/
theorem ofJson_ofFloat_iff {x : Number.Binary64} :
    ofJson (.ofFloat x) = .float x ↔ x.isFinite = true := by
  rw [Json.ofFloat]
  split
  · next hfinite => exact iff_of_true rfl hfinite
  · next hfinite => exact iff_of_false (by rintro ⟨⟩) hfinite

/-! ## Documents -/

mutual

/-- **A document comes back from its value.** -/
theorem toJson_ofJson (j : Json) : (ofJson j).toJson = j := by
  cases j with
  | number n => exact toJson_ofJson_number n
  | array items =>
    show Json.array (toJsonItems (ofJsonItems items)) = .array items
    rw [toJsonItems_ofJsonItems items]
  | object entries =>
    show Json.object (toJsonEntries (ofJsonEntries entries)) = .object entries
    rw [toJsonEntries_ofJsonEntries entries]
  | _ => rfl

theorem toJsonItems_ofJsonItems (items : List Json) : toJsonItems (ofJsonItems items) = items := by
  cases items with
  | nil => rfl
  | cons j rest =>
    show (ofJson j).toJson :: toJsonItems (ofJsonItems rest) = j :: rest
    rw [toJson_ofJson j, toJsonItems_ofJsonItems rest]

theorem toJsonEntries_ofJsonEntries (entries : List (String × Json)) :
    toJsonEntries (ofJsonEntries entries) = entries := by
  cases entries with
  | nil => rfl
  | cons e rest =>
    obtain ⟨key, j⟩ := e
    show (key, (ofJson j).toJson) :: toJsonEntries (ofJsonEntries rest) = (key, j) :: rest
    rw [toJson_ofJson j, toJsonEntries_ofJsonEntries rest]

end

mutual

/-- **Which values come back from their documents.** -/
theorem ofJson_toJson_iff (v : Value) : ofJson v.toJson = v ↔ v.isDocument = true := by
  cases v with
  | int i => exact iff_of_true (ofJson_ofInt64 i) rfl
  | uint u => rw [toJson, ofJson_ofUInt64_iff, isDocument, decide_eq_true_iff]
  | float x => exact ofJson_ofFloat_iff
  | list items =>
    show Value.list (ofJsonItems (toJsonItems items)) = .list items ↔ areDocuments items = true
    rw [list.injEq]
    exact ofJsonItems_toJsonItems_iff items
  | map entries =>
    show Value.map (ofJsonEntries (toJsonEntries entries)) = .map entries ↔
      entriesAreDocuments entries = true
    rw [map.injEq]
    exact ofJsonEntries_toJsonEntries_iff entries
  | bytes b => exact iff_of_false (by rintro ⟨⟩) Bool.false_ne_true
  | custom c => exact iff_of_false (by rintro ⟨⟩) Bool.false_ne_true
  | _ => exact iff_of_true rfl rfl

theorem ofJsonItems_toJsonItems_iff (items : List Value) :
    ofJsonItems (toJsonItems items) = items ↔ areDocuments items = true := by
  cases items with
  | nil => exact iff_of_true rfl rfl
  | cons v rest =>
    show ofJson v.toJson :: ofJsonItems (toJsonItems rest) = v :: rest ↔
      (isDocument v && areDocuments rest) = true
    rw [List.cons.injEq, ofJson_toJson_iff v, ofJsonItems_toJsonItems_iff rest, Bool.and_eq_true]

theorem ofJsonEntries_toJsonEntries_iff (entries : List (String × Value)) :
    ofJsonEntries (toJsonEntries entries) = entries ↔ entriesAreDocuments entries = true := by
  cases entries with
  | nil => exact iff_of_true rfl rfl
  | cons e rest =>
    obtain ⟨key, v⟩ := e
    show (key, ofJson v.toJson) :: ofJsonEntries (toJsonEntries rest) = (key, v) :: rest ↔
      (isDocument v && entriesAreDocuments rest) = true
    rw [List.cons.injEq, Prod.mk.injEq, eq_self_iff_true, true_and, ofJson_toJson_iff v,
      ofJsonEntries_toJsonEntries_iff rest, Bool.and_eq_true]

end

/-- **The two conversions undo each other**, on all documents and on the values that documents stand
for: a document comes back from its value, and a value comes back from its document exactly when it
is made of nothing but absence, truth values, signed integers, unsigned integers above these, finite
floating numbers, texts, lists and maps, as the value of a document always is. -/
theorem ofJson_inverse :
    (∀ j : Json, (ofJson j).toJson = j) ∧
      (∀ v : Value, ofJson v.toJson = v ↔ v.isDocument = true) ∧
      ∀ j : Json, (ofJson j).isDocument = true := by
  refine ⟨toJson_ofJson, ofJson_toJson_iff, fun j => ?_⟩
  rw [← ofJson_toJson_iff, toJson_ofJson]

end FieldRules.Value
