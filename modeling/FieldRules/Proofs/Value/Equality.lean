import FieldRules.Value.Basic

/-!
# When equal values are the same

Equality of values compares floating numbers as numbers and values of types of their own by identity.
Where neither occurs, only the value itself is equal to a value, so evaluating the equality tells
which value it is.

## Main definitions

* `Value.isExact` — no floating number and no value of a type of its own occurs in a value.

## Main statements

* `Value.eq_of_eq` — what is equal to an exact value is that value.
-/

namespace FieldRules.Value

mutual

/-- Whether neither a floating number nor a value of a type of its own occurs in a value. -/
def isExact : Value → Bool
  | .float _ => false
  | .custom _ => false
  | .list items => areExact items
  | .map entries => entriesExact entries
  | _ => true

def areExact : List Value → Bool
  | [] => true
  | v :: rest => isExact v && areExact rest

def entriesExact : List (String × Value) → Bool
  | [] => true
  | e :: rest => isExact e.2 && entriesExact rest

end

mutual

/-- What is equal to an exact value is that value. -/
theorem eq_of_eq {v w : Value} (hw : w.isExact = true) (h : v.eq w = true) : v = w := by
  cases v with
  | list items =>
    cases w with
    | list items' =>
      rw [isExact] at hw
      rw [eq] at h
      rw [eq_of_eqItems hw h]
    | _ => cases h
  | map entries =>
    cases w with
    | map entries' =>
      rw [isExact] at hw
      rw [eq] at h
      rw [eq_of_eqEntries hw h]
    | _ => cases h
  | _ => cases w <;> first | rfl | exact congrArg _ (eq_of_beq h) | cases h | cases hw

theorem eq_of_eqItems {vs ws : List Value} (hws : areExact ws = true) (h : eqItems vs ws = true) :
    vs = ws := by
  cases vs with
  | nil => cases ws <;> first | rfl | cases h
  | cons v vs =>
    cases ws with
    | nil => cases h
    | cons w ws =>
      rw [areExact, Bool.and_eq_true] at hws
      rw [eqItems, Bool.and_eq_true] at h
      rw [eq_of_eq hws.1 h.1, eq_of_eqItems hws.2 h.2]

theorem eq_of_eqEntries {es fs : List (String × Value)} (hfs : entriesExact fs = true)
    (h : eqEntries es fs = true) : es = fs := by
  cases es with
  | nil => cases fs <;> first | rfl | cases h
  | cons e es =>
    cases fs with
    | nil => cases h
    | cons f fs =>
      obtain ⟨key, v⟩ := e
      obtain ⟨key', w⟩ := f
      rw [entriesExact, Bool.and_eq_true] at hfs
      rw [eqEntries, Bool.and_eq_true, Bool.and_eq_true] at h
      rw [eq_of_beq h.1.1, eq_of_eq hfs.1 h.1.2, eq_of_eqEntries hfs.2 h.2]

end

end FieldRules.Value
