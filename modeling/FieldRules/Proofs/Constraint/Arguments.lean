import FieldRules.Constraint.Arguments

/-!
# Where an argument list ends

Reading an argument list stops right behind the parenthesis that closes it, and what comes after
that parenthesis has no influence on what was read.  So the text of a list can be cut out of an
expression and read on its own.

## Main statements

* `scanArguments_eq_ok_iff` — a list is read from a text exactly when the text begins with the body
  of the list and its parenthesis, and the body reads so on its own.
-/

namespace FieldRules.Constraint

/-- A successful reading of `s` ends right behind some parenthesis, and any other text behind that
parenthesis is left over in its place. -/
def ClosesIn (scan : List Char → Except Fault (List RawArgument × List Char)) (s : List Char) :
    Prop :=
  ∀ raw rest, scan s = .ok (raw, rest) →
    ∃ body, s = body ++ ')' :: rest ∧ ∀ other, scan (body ++ ')' :: other) = .ok (raw, other)

/-- A reading that fails closes nowhere. -/
theorem ClosesIn.of_error {scan : List Char → Except Fault (List RawArgument × List Char)}
    {s : List Char} {f : Fault} (h : scan s = .error f) : ClosesIn scan s := by
  intro raw rest hok
  rw [h] at hok
  cases hok

/-- Taking one character and going on with another reading.  How it goes on may hang on the
character that comes next, which is why the step is only asked for texts with the head of `s`. -/
theorem ClosesIn.cons {scan scan' : List Char → Except Fault (List RawArgument × List Char)}
    {c : Char} {s : List Char} (h : ClosesIn scan' s)
    (hstep : ∀ more, more.head? = s.head? → scan (c :: more) = scan' more) :
    ClosesIn scan (c :: s) := by
  intro raw rest hok
  rw [hstep s rfl] at hok
  obtain ⟨body, rfl, hbody⟩ := h raw rest hok
  refine ⟨c :: body, rfl, fun other => ?_⟩
  have hhead : (body ++ ')' :: other).head? = (body ++ ')' :: rest).head? := by
    cases body <;> rfl
  rw [List.cons_append, hstep _ hhead, hbody]

/-- Taking an escaped character, which goes on the same whatever follows. -/
theorem ClosesIn.cons_cons {scan scan' : List Char → Except Fault (List RawArgument × List Char)}
    {c e : Char} {s : List Char} (h : ClosesIn scan' s)
    (hstep : ∀ more, scan (c :: e :: more) = scan' more) : ClosesIn scan (c :: e :: s) := by
  have hinner : ClosesIn (fun more => scan (c :: more)) (e :: s) := h.cons fun more _ => hstep more
  exact hinner.cons fun more _ => rfl

/-- One step outside quotes, with the way on left to the guards. -/
theorem scanArguments_cons (st : ArgumentState) (c : Char) (rest : List Char) :
    scanArguments st (c :: rest) =
      if st.quoted.isSome && c != ',' && c != ')' && !Text.isBlank c then
        .error ⟨.textAfterQuote, rest⟩
      else if c = '\\' then
        match rest with
        | [] => .error ⟨.danglingEscape, []⟩
        | e :: rest =>
          if isEscapable e then scanArguments (st.push e) rest
          else scanArguments ((st.push '\\').push e) rest
      else if (c = '\'' ∨ c = '"') ∧ st.isBlank then scanQuoted st c [] rest
      else if c = '(' then scanArguments { st.push c with depth := st.depth + 1 } rest
      else if c = ')' then
        if 0 < st.depth then scanArguments { st.push c with depth := st.depth - 1 } rest
        else .ok (st.finish true, rest)
      else if c = ',' ∧ st.depth = 0 then scanArguments ⟨st.finish false, [], none, 0⟩ rest
      else scanArguments (st.push c) rest :=
  scanArguments.eq_def st (c :: rest)

section Step

variable {n : Nat} (hplain : ∀ st s, s.length ≤ n → ClosesIn (scanArguments st) s)
  (hquoted : ∀ st quote text s, s.length ≤ n → ClosesIn (scanQuoted st quote text) s)
include hplain hquoted

/-- Outside quotes the state changes with each character, but the way on never looks past the next
one. -/
theorem closesIn_scanArguments_cons (st : ArgumentState) (c : Char) {rest : List Char}
    (hrest : rest.length ≤ n) : ClosesIn (scanArguments st) (c :: rest) := by
  by_cases hquote : (st.quoted.isSome && c != ',' && c != ')' && !Text.isBlank c) = true
  · exact .of_error (by rw [scanArguments_cons, if_pos hquote])
  by_cases hslash : c = '\\'
  · subst hslash
    cases rest with
    | nil => exact .of_error (by rw [scanArguments_cons, if_neg hquote, if_pos rfl])
    | cons e rest =>
      have hlength : rest.length ≤ n := by
        rw [List.length_cons] at hrest
        omega
      by_cases he : isEscapable e = true
      · refine (hplain (st.push e) rest hlength).cons_cons fun more => ?_
        rw [scanArguments_cons, if_neg hquote, if_pos rfl]
        simp [he]
      · refine (hplain ((st.push '\\').push e) rest hlength).cons_cons fun more => ?_
        rw [scanArguments_cons, if_neg hquote, if_pos rfl]
        simp [he]
  by_cases hopen : (c = '\'' ∨ c = '"') ∧ st.isBlank
  · refine (hquoted st c [] rest hrest).cons fun more _ => ?_
    rw [scanArguments_cons, if_neg hquote, if_neg hslash, if_pos hopen]
  by_cases hparen : c = '('
  · refine (hplain { st.push c with depth := st.depth + 1 } rest hrest).cons fun more _ => ?_
    rw [scanArguments_cons, if_neg hquote, if_neg hslash, if_neg hopen, if_pos hparen]
  by_cases hclose : c = ')'
  · subst hclose
    by_cases hdepth : 0 < st.depth
    · refine (hplain { st.push ')' with depth := st.depth - 1 } rest hrest).cons fun more _ => ?_
      rw [scanArguments_cons, if_neg hquote, if_neg hslash, if_neg hopen, if_neg hparen, if_pos rfl,
        if_pos hdepth]
    · -- the parenthesis that closes the list
      intro raw rest' hok
      have hend : ∀ more, scanArguments st (')' :: more) = .ok (st.finish true, more) := by
        intro more
        rw [scanArguments_cons, if_neg hquote, if_neg hslash, if_neg hopen, if_neg hparen,
          if_pos rfl, if_neg hdepth]
      rw [hend] at hok
      cases hok
      exact ⟨[], rfl, hend⟩
  by_cases hcomma : c = ',' ∧ st.depth = 0
  · refine (hplain ⟨st.finish false, [], none, 0⟩ rest hrest).cons fun more _ => ?_
    rw [scanArguments_cons, if_neg hquote, if_neg hslash, if_neg hopen, if_neg hparen,
      if_neg hclose, if_pos hcomma]
  · refine (hplain (st.push c) rest hrest).cons fun more _ => ?_
    rw [scanArguments_cons, if_neg hquote, if_neg hslash, if_neg hopen, if_neg hparen,
      if_neg hclose, if_neg hcomma]

/-- Inside quotes the text grows; a backslash looks at the next character and may leave it. -/
theorem closesIn_scanQuoted_cons (st : ArgumentState) (quote : Char) (text : List Char) (c : Char)
    {rest : List Char} (hrest : rest.length ≤ n) :
    ClosesIn (scanQuoted st quote text) (c :: rest) := by
  by_cases hquote : c = quote
  · refine (hplain { st with quoted := some text } rest hrest).cons fun more _ => ?_
    rw [scanQuoted.eq_def]
    simp [hquote]
  by_cases hslash : c = '\\'
  · subst hslash
    cases rest with
    | nil => exact .of_error (by rw [scanQuoted, if_neg hquote, if_pos rfl])
    | cons e rest =>
      by_cases he : e = quote
      · have hlength : rest.length ≤ n := by
          rw [List.length_cons] at hrest
          omega
        refine (hquoted st quote (text ++ [quote]) rest hlength).cons_cons fun more => ?_
        rw [scanQuoted, if_neg hquote, if_pos rfl]
        simp [he]
      · refine (hquoted st quote (text ++ ['\\']) (e :: rest) hrest).cons fun more hhead => ?_
        obtain ⟨more', rfl⟩ : ∃ more', more = e :: more' := by
          cases more with
          | nil => simp at hhead
          | cons d more' =>
            obtain rfl : d = e := by simpa using hhead
            exact ⟨more', rfl⟩
        rw [scanQuoted, if_neg hquote, if_pos rfl]
        simp [he]
  · refine (hquoted st quote (text ++ [c]) rest hrest).cons fun more _ => ?_
    rw [scanQuoted.eq_def]
    simp [hquote, hslash]

end Step

/-- The induction is on the length of the text, because an escape takes two characters at once. -/
theorem closesIn_scan (n : Nat) :
    (∀ st s, s.length ≤ n → ClosesIn (scanArguments st) s) ∧
      ∀ st quote text s, s.length ≤ n → ClosesIn (scanQuoted st quote text) s := by
  have hplainNil : ∀ st, ClosesIn (scanArguments st) [] :=
    fun st => .of_error rfl
  have hquotedNil : ∀ st quote text, ClosesIn (scanQuoted st quote text) [] :=
    fun st quote text => .of_error rfl
  induction n with
  | zero =>
    refine ⟨fun st s hs => ?_, fun st quote text s hs => ?_⟩ <;>
      rw [List.length_eq_zero_iff.1 (Nat.le_zero.1 hs)]
    · exact hplainNil st
    · exact hquotedNil st quote text
  | succ n ih =>
    obtain ⟨hplain, hquoted⟩ := ih
    refine ⟨fun st s hs => ?_, fun st quote text s hs => ?_⟩
    · cases s with
      | nil => exact hplainNil st
      | cons c rest =>
        exact closesIn_scanArguments_cons hplain hquoted st c (Nat.le_of_succ_le_succ hs)
    · cases s with
      | nil => exact hquotedNil st quote text
      | cons c rest =>
        exact closesIn_scanQuoted_cons hplain hquoted st quote text c (Nat.le_of_succ_le_succ hs)

/-- **A list is read up to the parenthesis that closes it.** -/
theorem scanArguments_eq_ok_iff {st : ArgumentState} {s rest : List Char}
    {raw : List RawArgument} :
    scanArguments st s = .ok (raw, rest) ↔
      ∃ body, s = body ++ ')' :: rest ∧ scanArguments st (body ++ [')']) = .ok (raw, []) := by
  constructor
  · intro h
    obtain ⟨body, hs, hbody⟩ := (closesIn_scan s.length).1 st s (Nat.le_refl _) raw rest h
    exact ⟨body, hs, hbody []⟩
  · rintro ⟨body, rfl, h⟩
    obtain ⟨body', hs, hbody⟩ := (closesIn_scan _).1 st _ (Nat.le_refl _) raw [] h
    obtain rfl : body = body' := List.append_cancel_right hs
    exact hbody rest

end FieldRules.Constraint
