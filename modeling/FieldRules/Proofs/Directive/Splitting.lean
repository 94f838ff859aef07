import FieldRules.Directive.Basic

/-!
# Splitting at separators

A text is split at the separators that no backslash makes stand for themselves.  The backslashes
that do so are found from the front: each makes the next character stand for itself, which may be a
backslash.  So what stands before such a separator is split by itself, and so is what stands behind
it.

## Main definitions

* `Directive.escapes` — the texts that end with a backslash which waits for a character.

## Main statements

* `Directive.escapedRec` — how a text is read.
* `Directive.splitUnescaped_eq_cons`, `Directive.splitUnescaped_append_separator` — where a text is
  split.
* `Directive.splitColon?_eq_some` — where the first colon is.
-/

namespace FieldRules.Directive

/-- Whether a text ends with a backslash that makes the next character stand for itself. -/
def escapes (s : List Char) : Bool := s.foldl (fun waits c => !waits && c == '\\') false

/-- A text is read character by character, or by a backslash and the character behind it. -/
theorem escapedRec {P : List Char → Prop} (nil : P []) (backslash : P ['\\'])
    (pair : ∀ c s, P s → P ('\\' :: c :: s)) (cons : ∀ c s, c ≠ '\\' → P s → P (c :: s)) :
    ∀ s, P s
  | [] => nil
  | c :: s =>
    if hc : c = '\\' then
      match s with
      | [] => hc ▸ backslash
      | d :: s => hc ▸ pair d s (escapedRec nil backslash pair cons s)
    else cons c s hc (escapedRec nil backslash pair cons s)

section Splitting

variable {separator : Char} {s part before after : List Char} {later : List (List Char)}

/-! ## Steps -/

theorem escapes_cons {c : Char} (hc : c ≠ '\\') (s : List Char) : escapes (c :: s) = escapes s := by
  simp [escapes, beq_eq_false_iff_ne.2 hc]

theorem escapes_backslash (c : Char) (s : List Char) : escapes ('\\' :: c :: s) = escapes s := by
  simp [escapes]

theorem escapes_append (hs : escapes s = false) (t : List Char) : escapes (s ++ t) = escapes t := by
  rw [escapes] at hs
  rw [escapes, List.foldl_append, hs, escapes]

theorem splitUnescaped_ne_nil (s : List Char) : splitUnescaped separator s ≠ [] := by
  fun_cases splitUnescaped separator s <;> simp

/-- A character that is neither a backslash nor the separator goes to the first part. -/
theorem splitUnescaped_cons {c : Char} (hc : c ≠ '\\') (hsep : c ≠ separator) (s : List Char) :
    splitUnescaped separator (c :: s) = (splitUnescaped separator s).modifyHead (c :: ·) := by
  rw [splitUnescaped.eq_def]
  simp only [hc, hsep, if_false]
  cases h : splitUnescaped separator s with
  | nil => exact absurd h (splitUnescaped_ne_nil s)
  | cons part parts => rfl

/-- A character with a backslash before it goes to the first part. -/
theorem splitUnescaped_backslash (c : Char) (s : List Char) :
    splitUnescaped separator ('\\' :: c :: s) =
      (splitUnescaped separator s).modifyHead ('\\' :: c :: ·) := by
  rw [splitUnescaped.eq_def]
  simp only [if_true]
  cases h : splitUnescaped separator s with
  | nil => exact absurd h (splitUnescaped_ne_nil s)
  | cons part parts => rfl

theorem splitUnescaped_separator (hsep : separator ≠ '\\') (s : List Char) :
    splitUnescaped separator (separator :: s) = [] :: splitUnescaped separator s := by
  rw [splitUnescaped.eq_def]
  simp only [hsep, if_false, if_true]

theorem exists_splitUnescaped (separator : Char) (s : List Char) :
    ∃ part later, splitUnescaped separator s = part :: later :=
  List.exists_cons_of_ne_nil (splitUnescaped_ne_nil s)

theorem splitColon?_cons {c : Char} (hc : c ≠ '\\') (hcolon : c ≠ ':') (s : List Char) :
    splitColon? (c :: s) = (splitColon? s).map fun r => (c :: r.1, r.2) := by
  rw [splitColon?.eq_def]
  simp only [hc, hcolon, if_false]

theorem splitColon?_backslash (c : Char) (s : List Char) :
    splitColon? ('\\' :: c :: s) = (splitColon? s).map fun r => ('\\' :: c :: r.1, r.2) := rfl

theorem splitColon?_colon (s : List Char) : splitColon? (':' :: s) = some ([], s) := by
  rw [splitColon?.eq_def]
  rfl

/-! ## Parts -/

theorem modifyHead_nil_append (parts : List (List Char)) :
    parts.modifyHead ([] ++ ·) = parts := by
  cases parts <;> rfl

theorem splitUnescaped_append {p : List Char} (hp : ∀ c ∈ p, c ≠ '\\' ∧ c ≠ separator)
    (s : List Char) :
    splitUnescaped separator (p ++ s) = (splitUnescaped separator s).modifyHead (p ++ ·) := by
  induction p with
  | nil => exact (modifyHead_nil_append _).symm
  | cons c p ih =>
    obtain ⟨hc, hsep⟩ := hp c List.mem_cons_self
    rw [List.cons_append, splitUnescaped_cons hc hsep,
      ih fun d hd => hp d (List.mem_cons_of_mem _ hd), List.modifyHead_modifyHead]
    rfl

theorem modifyHead_splitUnescaped_append (s : List Char) (f : List Char → List Char)
    (parts : List (List Char)) :
    (splitUnescaped separator s ++ parts).modifyHead f =
      (splitUnescaped separator s).modifyHead f ++ parts := by
  obtain ⟨first, rest, hs⟩ := exists_splitUnescaped separator s
  rw [hs]
  rfl

/-- The first part of a text ends with the text, or at a separator that no backslash waits for. -/
theorem splitUnescaped_eq_cons (h : splitUnescaped separator s = part :: later) :
    (s = part ∧ later = []) ∨ ∃ rest, s = part ++ separator :: rest ∧ escapes part = false ∧
      splitUnescaped separator rest = later := by
  induction s using escapedRec generalizing part with
  | nil =>
    cases h
    exact .inl ⟨rfl, rfl⟩
  | backslash =>
    cases h
    exact .inl ⟨rfl, rfl⟩
  | pair c s ih =>
    rw [splitUnescaped_backslash] at h
    obtain ⟨first, rest, hs⟩ := exists_splitUnescaped separator s
    rw [hs] at h
    cases h
    rcases ih hs with ⟨rfl, rfl⟩ | ⟨rest, rfl, hfirst, rfl⟩
    · exact .inl ⟨rfl, rfl⟩
    · exact .inr ⟨rest, rfl, by rw [escapes_backslash, hfirst], rfl⟩
  | cons c s hc ih =>
    by_cases hsep : c = separator
    · subst hsep
      rw [splitUnescaped_separator hc] at h
      cases h
      exact .inr ⟨s, rfl, rfl, rfl⟩
    · rw [splitUnescaped_cons hc hsep] at h
      obtain ⟨first, rest, hs⟩ := exists_splitUnescaped separator s
      rw [hs] at h
      cases h
      rcases ih hs with ⟨rfl, rfl⟩ | ⟨rest, rfl, hfirst, rfl⟩
      · exact .inl ⟨rfl, rfl⟩
      · exact .inr ⟨rest, rfl, by rw [escapes_cons hc, hfirst], rfl⟩

/-- What is split behind a separator that no backslash waits for. -/
theorem splitUnescaped_append_separator (hs : escapes s = false) (hseparator : separator ≠ '\\')
    (t : List Char) : splitUnescaped separator (s ++ separator :: t) =
      splitUnescaped separator s ++ splitUnescaped separator t := by
  induction s using escapedRec with
  | nil =>
    rw [List.nil_append, splitUnescaped_separator hseparator]
    rfl
  | backslash => cases hs
  | pair c s ih =>
    rw [List.cons_append, List.cons_append, splitUnescaped_backslash, splitUnescaped_backslash,
      ih (by rwa [escapes_backslash] at hs), modifyHead_splitUnescaped_append]
  | cons c s hc ih =>
    have ih := ih (by rwa [escapes_cons hc] at hs)
    by_cases hsep : c = separator
    · subst hsep
      rw [List.cons_append, splitUnescaped_separator hc, splitUnescaped_separator hc, ih,
        List.cons_append]
    · rw [List.cons_append, splitUnescaped_cons hc hsep, splitUnescaped_cons hc hsep, ih,
        modifyHead_splitUnescaped_append]

/-- The parts of a text, each with the separator behind it. -/
theorem flatMap_splitUnescaped (separator : Char) (s : List Char) :
    (splitUnescaped separator s).flatMap (· ++ [separator]) = s ++ [separator] := by
  induction s using escapedRec with
  | nil => rfl
  | backslash => rfl
  | pair c s ih =>
    obtain ⟨part, later, hs⟩ := exists_splitUnescaped separator s
    rw [hs, List.flatMap_cons] at ih
    rw [splitUnescaped_backslash, hs]
    simpa using ih
  | cons c s hc ih =>
    obtain ⟨part, later, hs⟩ := exists_splitUnescaped separator s
    rw [hs, List.flatMap_cons] at ih
    by_cases hsep : c = separator
    · subst hsep
      rw [splitUnescaped_separator hc, hs, List.flatMap_cons, List.flatMap_cons]
      simpa using ih
    · rw [splitUnescaped_cons hc hsep, hs]
      simpa using ih

/-! ## The first colon -/

/-- Characters that are neither backslashes nor colons stand before the first colon. -/
theorem splitColon?_append {p : List Char} (hp : ∀ c ∈ p, c ≠ '\\' ∧ c ≠ ':') (s : List Char) :
    splitColon? (p ++ s) = (splitColon? s).map fun r => (p ++ r.1, r.2) := by
  induction p with
  | nil => cases h : splitColon? s <;> simp [h]
  | cons c p ih =>
    obtain ⟨hslash, hcolon⟩ := hp c List.mem_cons_self
    rw [List.cons_append, splitColon?_cons hslash hcolon,
      ih fun d hd => hp d (List.mem_cons_of_mem _ hd), Option.map_map]
    rfl

/-- The first colon is one that no backslash waits for. -/
theorem splitColon?_eq_some (h : splitColon? s = some (before, after)) :
    s = before ++ ':' :: after ∧ escapes before = false := by
  induction s using escapedRec generalizing before with
  | nil => cases h
  | backslash => cases h
  | pair c s ih =>
    rw [splitColon?_backslash] at h
    obtain ⟨⟨first, rest⟩, hs, heq⟩ := Option.map_eq_some_iff.1 h
    cases heq
    obtain ⟨rfl, hfirst⟩ := ih hs
    exact ⟨rfl, by rw [escapes_backslash, hfirst]⟩
  | cons c s hc ih =>
    by_cases hcolon : c = ':'
    · subst hcolon
      rw [splitColon?_colon] at h
      cases h
      exact ⟨rfl, rfl⟩
    · rw [splitColon?_cons hc hcolon] at h
      obtain ⟨⟨first, rest⟩, hs, heq⟩ := Option.map_eq_some_iff.1 h
      cases heq
      obtain ⟨rfl, hfirst⟩ := ih hs
      exact ⟨rfl, by rw [escapes_cons hc, hfirst]⟩

end Splitting

end FieldRules.Directive
