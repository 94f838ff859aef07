import FieldRules.Text.Blank
import FieldRules.Text.CharClass
import Mathlib.Data.List.DropRight

/-!
# Runs of blanks

What trimming a text does when the text is known in parts, and which characters are never blank.
-/

namespace FieldRules.Text

/-- Nothing but blanks. -/
def Blanks (s : List Char) : Prop := ∀ c ∈ s, isBlank c = true

instance (s : List Char) : Decidable (Blanks s) :=
  decidable_of_iff (s.all isBlank = true) List.all_eq_true

@[simp] theorem blanks_nil : Blanks [] := by simp [Blanks]

theorem Blanks.append {s t : List Char} (hs : Blanks s) (ht : Blanks t) : Blanks (s ++ t) := by
  intro c hc
  rcases List.mem_append.1 hc with hc | hc
  · exact hs c hc
  · exact ht c hc

/-- Blanks in front have no influence on what is left after trimming. -/
theorem trimStart_blanks_append {w : List Char} (hw : Blanks w) (s : List Char) :
    trimStart (w ++ s) = trimStart s :=
  List.dropWhile_append_of_pos hw

theorem trimStart_blanks {w : List Char} (hw : Blanks w) : trimStart w = [] := by
  simpa using trimStart_blanks_append hw []

theorem trimStart_cons {c : Char} (hc : isBlank c = false) (s : List Char) :
    trimStart (c :: s) = c :: s :=
  List.dropWhile_cons_of_neg (by simp [hc])

/-- Trimming takes blanks away and nothing else. -/
theorem exists_blanks_append_trimStart (s : List Char) :
    ∃ w, Blanks w ∧ s = w ++ trimStart s :=
  ⟨s.takeWhile isBlank, List.all_eq_true.1 List.all_takeWhile, List.takeWhile_append_dropWhile.symm⟩

/-- What is left after trimming does not begin with a blank. -/
theorem isBlank_of_trimStart_eq_cons {s t : List Char} {c : Char} (h : trimStart s = c :: t) :
    isBlank c = false := by
  have hhead := List.head?_dropWhile_not isBlank s
  rw [show s.dropWhile isBlank = c :: t from h] at hhead
  simpa using hhead

theorem trimStart_trimStart (s : List Char) : trimStart (trimStart s) = trimStart s := by
  cases h : trimStart s with
  | nil => rfl
  | cons c t => exact trimStart_cons (isBlank_of_trimStart_eq_cons h) t

/-- Trimming keeps what is no blank. -/
theorem mem_trim {c : Char} {s : List Char} (hc : isBlank c = false) (h : c ∈ s) : c ∈ trim s := by
  have hdrop : ∀ t : List Char, c ∈ t → c ∈ t.dropWhile isBlank := by
    intro t ht
    rw [← List.takeWhile_append_dropWhile (p := isBlank) (l := t), List.mem_append] at ht
    refine ht.resolve_left fun hmem => ?_
    exact Bool.noConfusion (hc.symm.trans (List.all_eq_true.1 List.all_takeWhile c hmem))
  rw [trim, trimEnd, List.mem_reverse]
  exact hdrop _ (List.mem_reverse.2 (hdrop s h))

/-- A text without blanks has none at its ends. -/
theorem trim_of_forall {s : List Char} (h : ∀ c ∈ s, isBlank c = false) : trim s = s := by
  have hdrop : ∀ t : List Char, (∀ c ∈ t, isBlank c = false) → t.dropWhile isBlank = t := by
    intro t ht
    cases t with
    | nil => rfl
    | cons c t => exact trimStart_cons (ht c List.mem_cons_self) t
  rw [trim, trimEnd, trimStart, hdrop s h, hdrop s.reverse (by simpa using h), List.reverse_reverse]

theorem trimStart_eq_nil_iff {s : List Char} : trimStart s = [] ↔ Blanks s := by
  refine ⟨fun h => ?_, trimStart_blanks⟩
  obtain ⟨w, hw, hsplit⟩ := exists_blanks_append_trimStart s
  rw [hsplit, h, List.append_nil]
  exact hw

/-- Nothing is left after trimming exactly when there is nothing but blanks. -/
theorem trim_isEmpty_iff {s : List Char} : (trim s).isEmpty = true ↔ Blanks s := by
  constructor
  · intro h
    have hend : trimStart (trimStart s).reverse = [] := by simpa [trim, trimEnd, trimStart] using h
    have hstart : Blanks (trimStart s) := by simpa [Blanks] using trimStart_eq_nil_iff.1 hend
    obtain ⟨w, hw, hsplit⟩ := exists_blanks_append_trimStart s
    rw [hsplit]
    exact hw.append hstart
  · intro h
    simp [trim, trimStart_blanks h, trimEnd]

/-- Trimming takes the blanks around a text away, when the text neither begins nor ends with one. -/
theorem trim_surrounded {before text after : List Char} (hbefore : Blanks before)
    (hafter : Blanks after) (hfirst : ∀ c ∈ text.head?, isBlank c = false)
    (hlast : ∀ c ∈ text.getLast?, isBlank c = false) :
    trim (before ++ (text ++ after)) = text := by
  rw [trim, trimStart_blanks_append hbefore]
  cases htext : text with
  | nil => rw [List.nil_append, trimStart_blanks hafter, trimEnd, List.reverse_nil,
      List.dropWhile_nil, List.reverse_nil]
  | cons c more =>
    rw [htext] at hfirst hlast
    have hreverse : Blanks after.reverse := fun d hd => hafter d (List.mem_reverse.1 hd)
    rw [List.cons_append, trimStart_cons (hfirst c rfl), trimEnd, ← List.cons_append,
      List.reverse_append]
    change (trimStart (after.reverse ++ (c :: more).reverse)).reverse = _
    rw [trimStart_blanks_append hreverse]
    cases hend : (c :: more).reverse with
    | nil => simp at hend
    | cons d rest =>
      have hd : isBlank d = false := hlast d (by rw [← List.head?_reverse, hend]; rfl)
      rw [trimStart_cons hd, ← hend, List.reverse_reverse]

theorem trim_sublist (s : List Char) : (trim s).Sublist s :=
  (List.rdropWhile_prefix isBlank (trimStart s)).sublist.trans (List.dropWhile_sublist _)

/-- A text begins after trimming as it does after its blanks in front. -/
theorem head?_trim (s : List Char) : (trim s).head? = (trimStart s).head? := by
  cases hstart : trimStart s with
  | nil => rw [trim, hstart]; rfl
  | cons c more =>
    have hc : c ∈ trim s := by
      have hmem : c ∈ s := (List.dropWhile_sublist isBlank).subset (by
        rw [show s.dropWhile isBlank = c :: more from hstart]
        exact List.mem_cons_self)
      exact mem_trim (isBlank_of_trimStart_eq_cons hstart) hmem
    obtain ⟨after, hafter⟩ : trim s <+: trimStart s := List.rdropWhile_prefix isBlank (trimStart s)
    cases htrim : trim s with
    | nil => simp [htrim] at hc
    | cons d text =>
      rw [htrim, hstart] at hafter
      cases hafter
      rfl

theorem isBlank_of_head?_trim {s : List Char} {c : Char} (h : (trim s).head? = some c) :
    isBlank c = false := by
  obtain ⟨more, hstart⟩ : ∃ more, trimStart s = c :: more :=
    List.head?_eq_some_iff.1 (head?_trim s ▸ h)
  exact isBlank_of_trimStart_eq_cons hstart

theorem isBlank_of_getLast?_trim {s : List Char} {c : Char} (h : (trim s).getLast? = some c) :
    isBlank c = false := by
  have hne : trim s ≠ [] := by
    rintro hnil
    simp [hnil] at h
  rw [List.getLast?_eq_some_getLast hne, Option.some_inj] at h
  rw [← h]
  exact eq_false_of_ne_true (List.rdropWhile_last_not isBlank (trimStart s) hne)

/-! ## Letters and numbers -/

/-- The code points of the blanks. -/
def blankCodes : List Nat :=
  [9, 10, 11, 12, 13, 0x20, 0x85, 0xA0, 0x1680, 0x2000, 0x2001, 0x2002, 0x2003, 0x2004, 0x2005,
    0x2006, 0x2007, 0x2008, 0x2009, 0x200A, 0x2028, 0x2029, 0x202F, 0x205F, 0x3000]

theorem mem_blankCodes_of_isBlank {c : Char} (h : isBlank c = true) : c.toNat ∈ blankCodes := by
  simp only [isBlank, Bool.or_eq_true, Bool.and_eq_true, decide_eq_true_eq, beq_iff_eq] at h
  simp only [blankCodes, List.mem_cons, List.not_mem_nil, or_false]
  omega

/-- The ranges of code points that the blanks make up. -/
def blankRanges : List (Nat × Nat) :=
  [(9, 13), (0x20, 0x20), (0x85, 0x85), (0xA0, 0xA0), (0x1680, 0x1680), (0x2000, 0x200A),
    (0x2028, 0x2029), (0x202F, 0x202F), (0x205F, 0x205F), (0x3000, 0x3000)]

theorem inRanges_blankRanges {c : Char} (h : isBlank c = true) :
    inRanges blankRanges c.toNat = true := by
  simp only [isBlank, Bool.or_eq_true, Bool.and_eq_true, decide_eq_true_eq, beq_iff_eq] at h
  simp only [inRanges, blankRanges, List.any_cons, List.any_nil, Bool.or_eq_true, Bool.and_eq_true,
    decide_eq_true_eq, Bool.false_eq_true, or_false]
  omega

/-- What lies in the ranges of one table lies in none of another that keeps apart from it. -/
theorem inRanges_of_apart {table others : List (Nat × Nat)} {code : Nat}
    (happart : (table.all fun r => others.all fun s => r.2.blt s.1 || s.2.blt r.1) = true)
    (h : inRanges others code = true) : inRanges table code = false := by
  obtain ⟨s, hs, hcode⟩ := List.any_eq_true.1 h
  refine List.any_eq_false.2 fun r hr => ?_
  have hrs := List.all_eq_true.1 (List.all_eq_true.1 happart r hr) s hs
  simp only [Bool.or_eq_true, Nat.blt_eq, Bool.and_eq_true, decide_eq_true_eq] at hrs hcode ⊢
  omega

set_option maxRecDepth 4000 in
/-- No blank is a letter or a number. -/
theorem isAlphanumeric_of_isBlank {c : Char} (h : isBlank c = true) : isAlphanumeric c = false := by
  have hascii : ∀ n ∈ blankCodes, n < 128 → (Char.ofNat n).isAlphanum = false := by decide
  have hletters : inRanges alphabeticRanges c.toNat = false :=
    inRanges_of_apart (by decide) (inRanges_blankRanges h)
  have hnumbers : inRanges numericRanges c.toNat = false :=
    inRanges_of_apart (by decide) (inRanges_blankRanges h)
  rw [isAlphanumeric, hletters, hnumbers]
  split
  · next hsmall =>
    have hcode := hascii c.toNat (mem_blankCodes_of_isBlank h) hsmall
    rwa [Char.ofNat_toNat] at hcode
  · rfl

/-- The letters and digits of ASCII are no blanks: their code points lie between those of the ASCII
blanks and those of all others. -/
theorem isBlank_of_isAlphanum {c : Char} (h : c.isAlphanum = true) : isBlank c = false := by
  have hcases : ((decide (c.val ≥ 65 ∧ c.val ≤ 90) ||
      decide (c.val ≥ 97) && decide (c.val ≤ 122)) ||
      decide (c.val ≥ 48) && decide (c.val ≤ 57)) = true := h
  have hrange : 48 ≤ c.toNat ∧ c.toNat ≤ 122 := by
    simp only [Bool.or_eq_true, Bool.and_eq_true, decide_eq_true_eq, UInt32.le_iff_toNat_le,
      ge_iff_le, Char.toNat_val] at hcases
    rcases hcases with (h | h) | h <;> simp at h <;> omega
  simp [isBlank]
  omega

end FieldRules.Text
