import FieldRules.Proofs.Directive.Composition

/-!
# Quotes and parentheses in directives

Which quote and how many parentheses are open after a text, and whether its last backslash still
waits for a character, does not depend on where configurations begin.  What the search for an
operator knows of it is what the text is made of: characters, quoted texts and characters with a
backslash before them, and parentheses between them that are open or closed.  A closing parenthesis
without an opening one counts for nothing.

## Main definitions

* `Directive.Nests` — the texts that leave no quote and a number of parentheses open.
* `Directive.EndsIn` — the texts that end in a character which is neither quoted nor escaped.

## Main statements

* `Directive.inside_foldl_next` — the search follows quotes and parentheses by themselves.
* `Directive.nests_iff` — what is open after a text.
* `Directive.atConfigStart_foldl_iff` — where the search takes a configuration to begin.
-/

namespace FieldRules.Directive

/-- The texts that can stand between two quotes of a kind. -/
inductive Quotable (quote : Char) : List Char → Prop
  | nil : Quotable quote []
  | plain {s c} : Quotable quote s → c ≠ '\\' → c ≠ quote → Quotable quote (s ++ [c])
  | escaped {s} (c) : Quotable quote s → Quotable quote (s ++ ['\\', c])

/-- The texts after which a number of parentheses is open, no quote is, and no backslash waits for a
character. -/
inductive Nests : Nat → List Char → Prop
  | nil : Nests 0 []
  | plain {n s c} : Nests n s → c ≠ '\\' → c ∉ delimiters → Nests n (s ++ [c])
  | escaped {n s} (c) : Nests n s → Nests n (s ++ ['\\', c])
  | quoted {n s body quote} : Nests n s → (quote = '\'' ∨ quote = '"') → Quotable quote body →
      Nests n (s ++ quote :: (body ++ [quote]))
  | opened {n s} : Nests n s → Nests (n + 1) (s ++ ['('])
  | closed {n s} : Nests n s → Nests (n - 1) (s ++ [')'])

/-- The texts that end, blanks aside, in a character that is neither quoted nor escaped. -/
def EndsIn (c : Char) (s : List Char) : Prop :=
  ∃ n before w, s = before ++ c :: w ∧ Nests n before ∧ Text.Blanks w

/-! ## The search without configurations -/

/-- The parentheses and the quote that are open, and whether a backslash waits for a character. -/
abbrev Inside := Nat × Option Char × Bool

/-- What is open after one more character. -/
def Inside.turn : Inside → Char → Inside
  | (n, quote?, true), _ => (n, quote?, false)
  | (n, quote?, false), c =>
    if c = '\\' then (n, quote?, true)
    else match quote? with
      | some quote => (n, if c = quote then none else some quote, false)
      | none =>
        if c = '\'' ∨ c = '"' then (n, some c, false)
        else if c = '(' then (n + 1, none, false)
        else if c = ')' then (n - 1, none, false)
        else (n, none, false)

/-- What the search knows is open. -/
def OperatorScan.inside (st : OperatorScan) : Inside := (st.depth, st.quote, st.isEscaped)

theorem OperatorScan.inside_next (st : OperatorScan) (c : Char) :
    (st.next c).inside = st.inside.turn c := by
  obtain ⟨n, quote?, escaped, atStart⟩ := st
  cases escaped with
  | true => rfl
  | false =>
    simp only [next, Bool.false_eq_true, if_false, inside, Inside.turn]
    cases quote? <;> simp only [] <;> (repeat' split) <;> rfl

/-- What is open after a text. -/
def openAfter (s : List Char) : Inside := s.foldl Inside.turn (0, none, false)

/-- The search follows quotes and parentheses by themselves. -/
theorem inside_foldl_next (s : List Char) :
    (s.foldl OperatorScan.next .start).inside = openAfter s := by
  induction s using List.reverseRecOn with
  | nil => rfl
  | append_singleton s c ih =>
    rw [openAfter] at ih ⊢
    rw [List.foldl_concat, List.foldl_concat, OperatorScan.inside_next, ih]

theorem openAfter_concat (s : List Char) (c : Char) :
    openAfter (s ++ [c]) = (openAfter s).turn c :=
  List.foldl_concat ..

/-! ## What is open after a text -/

section Open

variable {n : Nat} {quote : Char} {quote? : Option Char} {s body : List Char}

/-- The texts after which a number of parentheses and perhaps a quote is open, and no backslash
waits for a character. -/
def Leaves (n : Nat) (s : List Char) : Option Char → Prop
  | none => Nests n s
  | some quote => ∃ before body, s = before ++ quote :: body ∧ Nests n before ∧
      (quote = '\'' ∨ quote = '"') ∧ Quotable quote body

/-- What the text is made of, by what is open after it. -/
def Inside.Describes (s : List Char) : Inside → Prop
  | (n, quote?, false) => Leaves n s quote?
  | (n, quote?, true) => ∃ t, s = t ++ ['\\'] ∧ Leaves n t quote?

theorem Leaves.escaped (h : Leaves n s quote?) (c : Char) : Leaves n (s ++ ['\\', c]) quote? := by
  cases quote? with
  | none => exact Nests.escaped c h
  | some quote =>
    obtain ⟨before, body, rfl, hbefore, hquote, hbody⟩ := h
    exact ⟨before, body ++ ['\\', c], by simp, hbefore, hquote, hbody.escaped c⟩

/-- A character that neither is a backslash nor is escaped. -/
theorem Leaves.describes_turn (h : Leaves n s quote?) {c : Char} (hc : c ≠ '\\') :
    (Inside.turn (n, quote?, false) c).Describes (s ++ [c]) := by
  simp only [Inside.turn, hc, if_false]
  cases quote? with
  | some quote =>
    obtain ⟨before, body, rfl, hbefore, hquote, hbody⟩ := h
    by_cases hend : c = quote
    · simp only [hend, if_true]
      simpa [Inside.Describes, Leaves] using hbefore.quoted hquote hbody
    · simp only [hend, if_false]
      exact ⟨before, body ++ [c], by simp, hbefore, hquote, hbody.plain hc hend⟩
  | none =>
    by_cases hquote : c = '\'' ∨ c = '"'
    · simp only [hquote, if_true]
      exact ⟨s, [], rfl, h, hquote, .nil⟩
    · by_cases hopen : c = '('
      · simp only [hopen]
        exact Nests.opened h
      · by_cases hclose : c = ')'
        · simp only [hclose]
          exact Nests.closed h
        · simp only [hquote, hopen, hclose, if_false]
          exact Nests.plain h hc (by simpa [delimiters, not_or, and_assoc] using
            ⟨(not_or.1 hquote).1, (not_or.1 hquote).2, hopen, hclose⟩)

/-- **One more character**: what is open after it describes the text with it. -/
theorem Inside.Describes.turn {i : Inside} (h : i.Describes s) (c : Char) :
    (i.turn c).Describes (s ++ [c]) := by
  obtain ⟨n, quote?, escaped⟩ := i
  cases escaped with
  | true =>
    obtain ⟨t, rfl, ht⟩ := h
    have hpair : t ++ ['\\'] ++ [c] = t ++ ['\\', c] := by simp
    rw [hpair]
    exact ht.escaped c
  | false =>
    by_cases hc : c = '\\'
    · subst hc
      exact ⟨s, rfl, h⟩
    · exact Leaves.describes_turn h hc

/-- What is open after a text describes it. -/
theorem describes_openAfter (s : List Char) : (openAfter s).Describes s := by
  induction s using List.reverseRecOn with
  | nil => exact Nests.nil
  | append_singleton s c ih =>
    rw [openAfter_concat]
    exact ih.turn c

theorem foldl_turn_quotable (h : Quotable quote body) (n : Nat) :
    body.foldl Inside.turn (n, some quote, false) = (n, some quote, false) := by
  induction h with
  | nil => rfl
  | plain _ hslash hquote ih => simp [ih, Inside.turn, hslash, hquote]
  | escaped c _ ih => simp [ih, Inside.turn]

/-- **What is open after a text** of which it is known what it is made of. -/
theorem nests_iff : Nests n s ↔ openAfter s = (n, none, false) := by
  constructor
  · intro h
    induction h with
    | nil => rfl
    | plain _ hslash hc ih =>
      simp only [delimiters, List.mem_cons, List.not_mem_nil, or_false, not_or] at hc
      simp [openAfter_concat, ih, Inside.turn, hslash, hc]
    | escaped c _ ih =>
      rw [openAfter] at ih ⊢
      simp [ih, Inside.turn]
    | @quoted n s body quote _ hquote hbody ih =>
      have hslash : quote ≠ '\\' := by rcases hquote with rfl | rfl <;> decide
      rw [openAfter] at ih ⊢
      simp [ih, Inside.turn, hslash, hquote, foldl_turn_quotable hbody]
    | opened _ ih => simp [openAfter_concat, ih, Inside.turn]
    | closed _ ih => simp [openAfter_concat, ih, Inside.turn]
  · intro h
    have hdescribes := describes_openAfter s
    rw [h] at hdescribes
    exact hdescribes

instance (n : Nat) (s : List Char) : Decidable (Nests n s) := decidable_of_iff _ nests_iff.symm

end Open

/-! ## Characters that open and close nothing -/

section Plain

variable {n : Nat} {quote c sep : Char} {s w : List Char}

/-- What is open is a quote. -/
theorem quote_of_openAfter (h : (openAfter s).2.1 = some quote) : quote = '\'' ∨ quote = '"' := by
  have hdescribes := describes_openAfter s
  generalize openAfter s = i at h hdescribes
  obtain ⟨n, quote?, escaped⟩ := i
  cases h
  cases escaped with
  | true =>
    obtain ⟨t, -, before, body, -, -, hquote, -⟩ := hdescribes
    exact hquote
  | false =>
    obtain ⟨before, body, -, -, hquote, -⟩ := hdescribes
    exact hquote

/-- A character that is no delimiter and no backslash, and is not escaped, changes nothing. -/
theorem openAfter_plain (hc : c ≠ '\\') (hdelimiter : c ∉ delimiters)
    (hs : (openAfter s).2.2 = false) : openAfter (s ++ [c]) = openAfter s := by
  have hquotes : ∀ quote, (openAfter s).2.1 = some quote → quote = '\'' ∨ quote = '"' :=
    fun _ => quote_of_openAfter
  simp only [delimiters, List.mem_cons, List.not_mem_nil, or_false, not_or] at hdelimiter
  rw [openAfter_concat]
  generalize openAfter s = i at hs hquotes ⊢
  obtain ⟨n, quote?, escaped⟩ := i
  cases hs
  cases quote? with
  | none => simp [Inside.turn, hc, hdelimiter]
  | some quote =>
    have hne : c ≠ quote := by
      rintro rfl
      rcases hquotes c rfl with h | h
      · exact hdelimiter.1 h
      · exact hdelimiter.2.1 h
    simp [Inside.turn, hc, hne]

theorem openAfter_blanks (hw : Text.Blanks w) (hs : (openAfter s).2.2 = false) :
    openAfter (s ++ w) = openAfter s := by
  induction w using List.reverseRecOn with
  | nil => rw [List.append_nil]
  | append_singleton w c ih =>
    have ih := ih fun d hd => hw d (List.mem_append_left _ hd)
    obtain ⟨hescapable, hdelimiter⟩ := isPlain_of_isBlank (hw c (by simp))
    rw [← List.append_assoc, openAfter_plain (ne_backslash_of_isEscapable hescapable) hdelimiter
      (ih ▸ hs), ih]

/-- The separators of segments and of scopes. -/
def IsSeparator (c : Char) : Prop := c = ';' ∨ c = ':'

theorem IsSeparator.isBlank (h : IsSeparator c) : Text.isBlank c = false := by
  rcases h with rfl | rfl <;> decide

/-- A separator that is not escaped, and blanks behind it, change nothing. -/
theorem openAfter_separator (hsep : IsSeparator sep) (hw : Text.Blanks w)
    (hs : (openAfter s).2.2 = false) : openAfter (s ++ sep :: w) = openAfter s := by
  have hplain : openAfter (s ++ [sep]) = openAfter s := by
    rcases hsep with rfl | rfl <;> exact openAfter_plain (by decide) (by decide) hs
  rw [List.append_cons s sep w, openAfter_blanks hw (hplain ▸ hs), hplain]

theorem exists_nests_iff : (∃ n, Nests n s) ↔ (openAfter s).2 = (none, false) := by
  constructor
  · rintro ⟨n, h⟩
    rw [nests_iff.1 h]
  · intro h
    exact ⟨(openAfter s).1, nests_iff.2 (Prod.ext rfl h)⟩

end Plain

/-! ## Where configurations begin -/

section ConfigStart

variable {c sep : Char} {s : List Char}

theorem EndsIn.openAfter (hsep : IsSeparator sep) (h : EndsIn sep s) :
    (openAfter s).2 = (none, false) := by
  obtain ⟨n, before, w, rfl, hbefore, hw⟩ := h
  have hbefore := nests_iff.1 hbefore
  rw [openAfter_separator hsep hw (by rw [hbefore]), hbefore]

/-- A text with one more character ends in a separator if it is the character, or if it did before
and the character is a blank. -/
theorem endsIn_concat_iff (hsep : IsSeparator sep) :
    EndsIn sep (s ++ [c]) ↔
      if Text.isBlank c = true then EndsIn sep s
      else c = sep ∧ (openAfter s).2 = (none, false) := by
  rw [← exists_nests_iff]
  constructor
  · rintro ⟨n, before, w, hs, hbefore, hw⟩
    induction w using List.reverseRecOn with
    | nil =>
      obtain ⟨rfl, hc⟩ := List.append_inj' hs rfl
      obtain rfl : c = sep := by simpa using hc
      rw [if_neg (by simp [hsep.isBlank])]
      exact ⟨rfl, n, hbefore⟩
    | append_singleton w d _ =>
      rw [← List.cons_append, ← List.append_assoc] at hs
      obtain ⟨rfl, hd⟩ := List.append_inj' hs rfl
      obtain rfl : c = d := by simpa using hd
      rw [if_pos (hw c (by simp))]
      exact ⟨n, before, w, rfl, hbefore, fun e he => hw e (List.mem_append_left _ he)⟩
  · intro h
    split at h
    · next hc =>
      obtain ⟨n, before, w, rfl, hbefore, hw⟩ := h
      exact ⟨n, before, w ++ [c], by simp, hbefore, hw.append (by simpa [Text.Blanks] using hc)⟩
    · obtain ⟨rfl, n, hn⟩ := h
      exact ⟨n, s, [], rfl, hn, Text.blanks_nil⟩

/-- Blanks, an escaped character and any other character, by what they say about where a
configuration begins. -/
theorem OperatorScan.atConfigStart_next (st : OperatorScan) (c : Char) :
    (st.next c).atConfigStart =
      if st.isEscaped then false
      else if Text.isBlank c then st.atConfigStart
      else (c == ':' || c == ';') && (st.next c).quote.isNone := by
  obtain ⟨n, quote?, escaped, atStart⟩ := st
  cases escaped with
  | true => rfl
  | false =>
    simp only [next, Bool.false_eq_true, if_false]
    split
    · cases quote? <;> simp only [] <;> (repeat' split) <;> rfl
    · rfl

/-- **Where the search takes a configuration to begin**: where there are only blanks before, or,
blanks aside, a separator that is neither quoted nor escaped. -/
theorem atConfigStart_foldl_iff (s : List Char) :
    (s.foldl OperatorScan.next .start).atConfigStart = true ↔
      Text.Blanks s ∨ EndsIn ';' s ∨ EndsIn ':' s := by
  induction s using List.reverseRecOn with
  | nil => simp [OperatorScan.start]
  | append_singleton s c ih =>
    have hescaped : (s.foldl OperatorScan.next .start).isEscaped = (openAfter s).2.2 :=
      congrArg (fun i : Inside => i.2.2) (inside_foldl_next s)
    have hquote : ((s.foldl OperatorScan.next .start).next c).quote =
        (openAfter (s ++ [c])).2.1 := by
      rw [← inside_foldl_next, List.foldl_concat]
      rfl
    have hblanks : Text.Blanks (s ++ [c]) ↔ Text.Blanks s ∧ Text.isBlank c = true := by
      simp [Text.Blanks, or_imp, forall_and]
    rw [List.foldl_concat, OperatorScan.atConfigStart_next, hescaped, hquote,
      endsIn_concat_iff (.inl rfl), endsIn_concat_iff (.inr rfl), hblanks]
    cases hs : (openAfter s).2.2 with
    | true =>
      -- behind a backslash no configuration begins, whatever the character is
      have hopen : (openAfter s).2 ≠ (none, false) := fun h => by simp [h] at hs
      have hnot : ¬ Text.Blanks s := by
        intro hblank
        have hnil := openAfter_blanks (s := []) hblank rfl
        rw [List.nil_append] at hnil
        exact hopen (by rw [hnil]; rfl)
      have hends : ∀ {sep}, IsSeparator sep → ¬ EndsIn sep s := fun hsep h =>
        hopen (h.openAfter hsep)
      simp [hnot, hopen, hends (.inl rfl), hends (.inr rfl)]
    | false =>
      by_cases hc : Text.isBlank c = true
      · simp [hc, ih]
      · by_cases hsep : IsSeparator c
        · have hsame := openAfter_separator hsep Text.blanks_nil hs
          have hopen : (openAfter s).2 = (none, false) ↔ (openAfter s).2.1 = none := by
            simp [Prod.ext_iff, hs]
          rcases hsep with rfl | rfl <;> simp [hc, hsame, hopen]
        · have hne : c ≠ ';' ∧ c ≠ ':' := not_or.1 hsep
          simp [hc, hne]

end ConfigStart

end FieldRules.Directive
