import FieldRules.Proofs.Directive.Writing

/-!
# Reading compositions

The search for an operator goes through a text once and stops at the first one, so that there is
none in what stands before.  A text with an operator is read by reading what stands before as
segments and what stands after as a directive of its own; each composition makes the text shorter,
and the bound on their number never matters.

## Main statements

* `Directive.splitOperator?_eq_some_iff`, `Directive.splitComposition?_eq_some_iff` — where the
  search stops.
* `Directive.read_eq_segments`, `Directive.read_eq_compose`, `Directive.read_eq_oneSided` — what a
  text without an operator says, and what one with an operator says.
-/

namespace FieldRules.Directive

/-! ## Where the search stops -/

theorem OperatorScan.sign_of_operator? {st : OperatorScan} {c : Char} {op : Composition}
    (h : st.operator? c = some op) : c = op.sign := by
  rw [operator?] at h
  by_cases hinside : (st.isEscaped || st.quote.isSome || st.depth != 0) = true
  · simp [hinside] at h
  · by_cases hfallback : c = '?'
    · by_cases hstart : st.atConfigStart = true
      · simp [hfallback, hstart] at h
      · simp only [hinside, hfallback, hstart, if_true] at h
        cases h
        exact hfallback
    · by_cases hboth : c = '&'
      · simp [hinside, hboth] at h
        cases h
        exact hboth
      · simp [hfallback, hboth] at h

section Search

variable {st : OperatorScan} {c : Char} {s left right : List Char} {op : Composition}

/-- What is found behind a character is found with that character in front. -/
theorem map_cons_eq_some_iff {found : Option (List Char × Composition × List Char)} :
    found.map (fun r => (c :: r.1, r.2)) = some (left, op, right) ↔
      ∃ more, left = c :: more ∧ found = some (more, op, right) := by
  constructor
  · intro h
    obtain ⟨⟨more, op', right'⟩, rfl, heq⟩ := Option.map_eq_some_iff.1 h
    cases heq
    exact ⟨more, rfl, rfl⟩
  · rintro ⟨more, rfl, rfl⟩
    rfl

/-- **The search stops at the first operator**: there is none before, and the character there is
one after what came before. -/
theorem splitOperator?_eq_some_iff :
    splitOperator? st s = some (left, op, right) ↔
      s = left ++ op.sign :: right ∧ splitOperator? st left = none ∧
        (left.foldl OperatorScan.next st).operator? op.sign = some op := by
  induction s generalizing st left with
  | nil => simp [splitOperator?]
  | cons c rest ih =>
    rw [splitOperator?]
    cases hop : st.operator? c with
    | some found =>
      have hsign := OperatorScan.sign_of_operator? hop
      constructor
      · intro h
        cases h
        exact ⟨by rw [hsign, List.nil_append], rfl, by rw [← hsign]; exact hop⟩
      · rintro ⟨hs, hnone, hfound⟩
        cases left with
        | nil =>
          obtain ⟨rfl, rfl⟩ := List.cons.inj hs
          rw [List.foldl_nil, hop] at hfound
          cases hfound
          rfl
        | cons d more =>
          -- the first character would be an operator in what stands before
          obtain ⟨rfl, -⟩ := List.cons.inj hs
          rw [splitOperator?, hop] at hnone
          cases hnone
    | none =>
      refine map_cons_eq_some_iff.trans ?_
      constructor
      · rintro ⟨more, rfl, hmore⟩
        obtain ⟨rfl, hnone, hfound⟩ := ih.1 hmore
        refine ⟨rfl, ?_, hfound⟩
        rw [splitOperator?, hop]
        exact Option.map_eq_none_iff.2 hnone
      · rintro ⟨hs, hnone, hfound⟩
        cases left with
        | nil =>
          obtain ⟨rfl, -⟩ := List.cons.inj hs
          rw [List.foldl_nil, hop] at hfound
          cases hfound
        | cons d more =>
          obtain ⟨rfl, hrest⟩ := List.cons.inj hs
          rw [splitOperator?, hop] at hnone
          exact ⟨more, rfl, ih.2 ⟨hrest, Option.map_eq_none_iff.1 hnone, hfound⟩⟩

/-- After the first character the search for a composition is the search for an operator. -/
theorem splitComposition?_eq_some_iff :
    splitComposition? s = some (left, op, right) ↔
      s = left ++ op.sign :: right ∧ left ≠ [] ∧ splitComposition? left = none ∧
        (left.foldl OperatorScan.next .start).operator? op.sign = some op := by
  cases s with
  | nil => simp [splitComposition?]
  | cons c rest =>
    rw [splitComposition?]
    refine map_cons_eq_some_iff.trans ?_
    constructor
    · rintro ⟨more, rfl, hmore⟩
      obtain ⟨rfl, hnone, hfound⟩ := splitOperator?_eq_some_iff.1 hmore
      exact ⟨rfl, List.cons_ne_nil _ _, Option.map_eq_none_iff.2 hnone, hfound⟩
    · rintro ⟨hs, hne, hnone, hfound⟩
      cases left with
      | nil => exact absurd rfl hne
      | cons d more =>
        obtain ⟨rfl, hrest⟩ := List.cons.inj hs
        rw [splitComposition?] at hnone
        exact ⟨more, rfl, splitOperator?_eq_some_iff.2
          ⟨hrest, Option.map_eq_none_iff.1 hnone, hfound⟩⟩

end Search

/-! ## Reading without a bound -/

section Unbounded

variable {s left right : List Char} {op : Composition}

theorem length_lt_of_splitComposition? (h : splitComposition? s = some (left, op, right)) :
    right.length < s.length := by
  obtain ⟨rfl, -, -, -⟩ := splitComposition?_eq_some_iff.1 h
  simp only [List.length_append, List.length_cons]
  omega

/-- The bound does not matter once it is as great as the length of the text. -/
theorem readWithin_of_le {fuel : Nat} (h : s.length ≤ fuel) :
    readWithin fuel s = readWithin s.length s := by
  induction fuel using Nat.strongRecOn generalizing s with
  | _ fuel ih =>
    cases hsplit : splitComposition? s with
    | none =>
      have hbound : ∀ fuel, readWithin fuel s = .segments (readSegments s) := by
        intro fuel
        cases fuel <;> simp [readWithin, hsplit]
      rw [hbound, hbound]
    | some r =>
      obtain ⟨left, op, right⟩ := r
      have hshorter := length_lt_of_splitComposition? hsplit
      obtain ⟨n, hn⟩ : ∃ n, s.length = n + 1 := ⟨s.length - 1, by omega⟩
      obtain ⟨k, hk⟩ : ∃ k, fuel = k + 1 := ⟨fuel - 1, by omega⟩
      have hright : ∀ bound, right.length ≤ bound → bound < fuel →
          readWithin bound right = readWithin right.length right := by
        intro bound hle hlt
        exact ih bound hlt hle
      rw [hn, hk, readWithin, readWithin]
      simp only [hsplit]
      by_cases hlast : k = n
      · rw [hlast]
      · rw [hright k (by omega) (by omega), hright n (by omega) (by omega)]

/-- A text without an operator is a list of segments. -/
theorem read_eq_segments {text : String} (h : splitComposition? text.toList = none) :
    read text = .segments (readSegments text.toList) := by
  rw [read]
  cases text.toList.length <;> simp [readWithin, h]

/-- **A text with an operator** is composed of what stands before the operator, which has none, and
of the directive that stands after it. -/
theorem read_eq_compose {text : String}
    (h : splitComposition? text.toList = some (left, op, right)) (hleft : ¬ Text.Blanks left)
    (hright : ¬ Text.Blanks right) :
    read text = .compose (readSegments left) op (read (String.ofList right)) ∧
      read (String.ofList left) = .segments (readSegments left) := by
  have hshorter := length_lt_of_splitComposition? h
  obtain ⟨n, hn⟩ : ∃ n, text.toList.length = n + 1 := ⟨text.toList.length - 1, by omega⟩
  have hsides : ((Text.trim left).isEmpty || (Text.trim right).isEmpty) = false := by
    rw [Bool.or_eq_false_iff, ← Bool.not_eq_true, ← Bool.not_eq_true, Text.trim_isEmpty_iff,
      Text.trim_isEmpty_iff]
    exact ⟨hleft, hright⟩
  constructor
  · rw [read, hn, readWithin]
    simp only [h, hsides, Bool.false_eq_true, if_false]
    rw [read, String.toList_ofList, readWithin_of_le (by omega)]
  · have hnone := (splitComposition?_eq_some_iff.1 h).2.2.1
    rw [read_eq_segments (by rwa [String.toList_ofList]), String.toList_ofList]

/-- A text with an operator and nothing but blanks on one of its sides. -/
theorem read_eq_oneSided {text : String}
    (h : splitComposition? text.toList = some (left, op, right))
    (hblank : Text.Blanks left ∨ Text.Blanks right) : read text = .oneSided text op := by
  have hshorter := length_lt_of_splitComposition? h
  obtain ⟨n, hn⟩ : ∃ n, text.toList.length = n + 1 := ⟨text.toList.length - 1, by omega⟩
  have hsides : ((Text.trim left).isEmpty || (Text.trim right).isEmpty) = true := by
    rwa [Bool.or_eq_true, Text.trim_isEmpty_iff, Text.trim_isEmpty_iff]
  rw [read, hn, readWithin]
  simp only [h, hsides, if_true, String.ofList_toList]

end Unbounded

end FieldRules.Directive
