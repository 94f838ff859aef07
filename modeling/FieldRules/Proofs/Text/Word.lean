import FieldRules.Proofs.Text.Blank

/-!
# Words

A word is a text of at least one character, all of them of one class.  The names of constraints and
the names of scopes are words, each of a class of its own.

## Main statements

* `IsWord.span` — splitting a text behind a word.
-/

namespace FieldRules.Text

/-- At least one character, and all of a class. -/
structure IsWord (p : Char → Bool) (s : List Char) : Prop where
  ne_nil : s ≠ []
  all : ∀ c ∈ s, p c = true

namespace IsWord

variable {p : Char → Bool} {s : List Char}

theorem iff_all : IsWord p s ↔ (!s.isEmpty && s.all p) = true := by
  rw [Bool.and_eq_true, Bool.not_eq_true', List.isEmpty_eq_false_iff, List.all_eq_true]
  exact ⟨fun h => ⟨h.ne_nil, h.all⟩, fun h => ⟨h.1, h.2⟩⟩

instance : Decidable (IsWord p s) := decidable_of_iff _ iff_all.symm

theorem exists_cons (hs : IsWord p s) : ∃ c more, s = c :: more ∧ p c = true := by
  obtain ⟨c, more, rfl⟩ := List.exists_cons_of_ne_nil hs.ne_nil
  exact ⟨c, more, rfl, hs.all c List.mem_cons_self⟩

/-- What is taken from a text as long as the class lasts is a word, if it is anything. -/
theorem takeWhile (hne : s.takeWhile p ≠ []) : IsWord p (s.takeWhile p) :=
  ⟨hne, List.all_eq_true.1 List.all_takeWhile⟩

/-- Splitting a text behind a word that is followed by another class. -/
theorem span (hs : IsWord p s) {rest : List Char}
    (hrest : ∀ c more, rest = c :: more → p c = false) :
    (s ++ rest).takeWhile p = s ∧ (s ++ rest).dropWhile p = rest := by
  rw [List.takeWhile_append_of_pos hs.all, List.dropWhile_append_of_pos hs.all]
  cases rest with
  | nil => simp
  | cons c more => simp [hrest c more rfl]

/-- A word of a class without blanks is not trimmed in front. -/
theorem trimStart_append (hs : IsWord p s) (hp : ∀ {c}, p c = true → isBlank c = false)
    (rest : List Char) : trimStart (s ++ rest) = s ++ rest := by
  obtain ⟨c, more, rfl, hc⟩ := hs.exists_cons
  exact trimStart_cons (hp hc) _

end IsWord

end FieldRules.Text
