import FieldRules.Proofs.Constraint.Arguments
import FieldRules.Proofs.Text.Blank

/-!
# Writing argument lists

An argument can be written between quotes, with a backslash before each quote of that kind in it, or
raw, with a backslash before every character that has a meaning in a raw argument.  Blanks may stand
around it.  A list of such arguments is read back exactly as it was meant, whatever follows the
parenthesis that closes it.  What can be said between quotes is every text that does not end with a
backslash, and what can be said raw is every text with something other than blanks at its ends.

## Main definitions

* `escapeWhere` — a backslash before each character of a class.
* `Spelling` — an argument and how it is written.
* `writeArguments` — the written form of a list.

## Main statements

* `scanQuoted_escapeWhere`, `scanArguments_escapeWhere` — what is escaped is read back.
* `scanArguments_written` — one argument of a list.
* `scanArguments_writeArguments` — a list.
-/

namespace FieldRules.Constraint

/-! ## Written forms -/

/-- A text with a backslash before each character of a class. -/
def escapeWhere (p : Char → Bool) : List Char → List Char
  | [] => []
  | c :: rest => if p c then '\\' :: c :: escapeWhere p rest else c :: escapeWhere p rest

/-- The characters that have a meaning in a raw argument. -/
def marks : List Char := [',', '(', ')', ';', '\\', '\'', '"']

/-- An argument with how it is written: between which quotes, if any, and what stands around it. -/
structure Spelling where
  before : List Char
  quote? : Option Char
  text : List Char
  after : List Char

namespace Spelling

/-- The written form of an argument. -/
def written (a : Spelling) : List Char :=
  match a.quote? with
  | some quote =>
    a.before ++ quote :: (escapeWhere (· == quote) a.text ++ quote :: a.after)
  | none => a.before ++ (escapeWhere marks.contains a.text ++ a.after)

/-- The argument that is meant. -/
def meant (a : Spelling) : RawArgument := ⟨a.text, a.quote?.isSome⟩

/-- The arguments that can be read back: blanks stand around them, a quoted text does not end with a
backslash, and a raw one is not empty and has no blanks at its ends. -/
structure IsLegible (a : Spelling) : Prop where
  before : Text.Blanks a.before
  after : Text.Blanks a.after
  quoted : ∀ quote ∈ a.quote?, (quote = '\'' ∨ quote = '"') ∧ a.text.getLast? ≠ some '\\'
  raw : a.quote? = none → a.text ≠ [] ∧ (∀ c ∈ a.text.head?, Text.isBlank c = false) ∧
    ∀ c ∈ a.text.getLast?, Text.isBlank c = false

/-- Whether an argument can be read back. -/
def isLegible (a : Spelling) : Bool :=
  a.before.all Text.isBlank && a.after.all Text.isBlank &&
    match a.quote? with
    | some quote => (quote == '\'' || quote == '"') && a.text.getLast? != some '\\'
    | none => !a.text.isEmpty && a.text.head?.all (!Text.isBlank ·) &&
        a.text.getLast?.all (!Text.isBlank ·)

theorem isLegible_iff {a : Spelling} : a.IsLegible ↔ a.isLegible = true := by
  have hparts : a.IsLegible ↔ (Text.Blanks a.before ∧ Text.Blanks a.after) ∧
      (∀ quote ∈ a.quote?, (quote = '\'' ∨ quote = '"') ∧ a.text.getLast? ≠ some '\\') ∧
      (a.quote? = none → a.text ≠ [] ∧ (∀ c ∈ a.text.head?, Text.isBlank c = false) ∧
        ∀ c ∈ a.text.getLast?, Text.isBlank c = false) :=
    ⟨fun h => ⟨⟨h.before, h.after⟩, h.quoted, h.raw⟩,
      fun h => ⟨h.1.1, h.1.2, h.2.1, h.2.2⟩⟩
  rw [hparts, isLegible]
  cases a.quote? <;> simp [Text.Blanks, Option.all_eq_true, and_assoc]

instance (a : Spelling) : Decidable a.IsLegible := decidable_of_iff _ isLegible_iff.symm

end Spelling

/-- The written form of a list of arguments, up to the parenthesis that closes it. -/
def writeArguments : List Spelling → List Char
  | [] => []
  | [a] => a.written
  | a :: b :: rest => a.written ++ ',' :: writeArguments (b :: rest)

/-! ## Characters -/

/-- The characters that have a meaning are those that a backslash makes stand for themselves. -/
theorem contains_marks : marks.contains = isEscapable := by
  funext c
  simp only [marks, isEscapable, List.contains_cons, List.contains_nil, Bool.or_false,
    Bool.or_assoc]

/-- A character without a meaning in raw arguments is none of those that have one. -/
theorem ne_of_isEscapable {c d : Char} (hc : isEscapable c = false) (hd : isEscapable d = true) :
    c ≠ d := by
  rintro rfl
  rw [hc] at hd
  cases hd

theorem isEscapable_of_isBlank {c : Char} (hc : Text.isBlank c = true) : isEscapable c = false := by
  have htable : ∀ n ∈ Text.blankCodes, isEscapable (Char.ofNat n) = false := by decide
  rw [← Char.ofNat_toNat c]
  exact htable c.toNat (Text.mem_blankCodes_of_isBlank hc)

/-! ## Steps of the reading -/

section Step

variable {st : ArgumentState} {c : Char}

/-- A character without a meaning is added to the argument; behind a quoted one only a blank can
be. -/
theorem scanArguments_push (hc : isEscapable c = false)
    (hquoted : st.quoted = none ∨ Text.isBlank c = true) (s : List Char) :
    scanArguments st (c :: s) = scanArguments (st.push c) s := by
  have hne := fun d => ne_of_isEscapable (d := d) hc
  have hguard : (st.quoted.isSome && c != ',' && c != ')' && !Text.isBlank c) = false := by
    rcases hquoted with h | h <;> simp [h]
  rw [scanArguments_cons, hguard]
  simp [hne '\\' rfl, hne '\'' rfl, hne '"' rfl, hne '(' rfl, hne ')' rfl, hne ',' rfl]

/-- A character with a backslash before it is added without the backslash. -/
theorem scanArguments_backslash (hc : isEscapable c = true) (hquoted : st.quoted = none)
    (s : List Char) : scanArguments st ('\\' :: c :: s) = scanArguments (st.push c) s := by
  rw [scanArguments_cons]
  simp [hquoted, hc]

/-- A quote opens a quoted argument where nothing but blanks has been read of it. -/
theorem scanArguments_quote (hc : c = '\'' ∨ c = '"') (hquoted : st.quoted = none)
    (hbuffer : Text.Blanks st.buffer) (s : List Char) :
    scanArguments st (c :: s) = scanQuoted st c [] s := by
  have hslash : c ≠ '\\' := by rcases hc with rfl | rfl <;> decide
  have hblank : st.isBlank = true := Text.trim_isEmpty_iff.2 hbuffer
  rw [scanArguments_cons]
  simp [hquoted, hslash, hc, hblank]

/-- A comma ends an argument. -/
theorem scanArguments_comma (hdepth : st.depth = 0) (s : List Char) :
    scanArguments st (',' :: s) = scanArguments ⟨st.finish false, [], none, 0⟩ s := by
  rw [scanArguments_cons]
  simp [hdepth]

/-- A parenthesis ends the list. -/
theorem scanArguments_close (hdepth : st.depth = 0) (s : List Char) :
    scanArguments st (')' :: s) = .ok (st.finish true, s) := by
  rw [scanArguments_cons]
  simp [hdepth]

/-- Blanks are added to the argument, also behind a quoted one. -/
theorem scanArguments_blanks {w : List Char} (hw : Text.Blanks w) (st : ArgumentState)
    (s : List Char) :
    scanArguments st (w ++ s) = scanArguments { st with buffer := st.buffer ++ w } s := by
  induction w generalizing st with
  | nil => rw [List.nil_append, List.append_nil]
  | cons c w ih =>
    have hc := hw c List.mem_cons_self
    rw [List.cons_append, scanArguments_push (isEscapable_of_isBlank hc) (.inr hc),
      ih fun d hd => hw d (List.mem_cons_of_mem _ hd)]
    simp [ArgumentState.push]

end Step

/-! ## What is escaped is read back -/

/-- An escaped raw text is read back. -/
theorem scanArguments_escapeWhere {st : ArgumentState} (hquoted : st.quoted = none)
    (text s : List Char) :
    scanArguments st (escapeWhere isEscapable text ++ s) =
      scanArguments { st with buffer := st.buffer ++ text } s := by
  induction text generalizing st with
  | nil => rw [escapeWhere, List.nil_append, List.append_nil]
  | cons c text ih =>
    have hpush : scanArguments (st.push c) (escapeWhere isEscapable text ++ s) =
        scanArguments { st with buffer := st.buffer ++ c :: text } s := by
      rw [@ih (st.push c) hquoted]
      simp [ArgumentState.push]
    rw [escapeWhere]
    by_cases hc : isEscapable c = true
    · rw [if_pos hc, List.cons_append, List.cons_append, scanArguments_backslash hc hquoted, hpush]
    · rw [if_neg hc, List.cons_append,
        scanArguments_push (by simpa using hc) (.inl hquoted), hpush]

/-- An escaped text does not begin with the quote that is escaped. -/
theorem exists_escapeWhere_cons {quote : Char} (hquote : quote ≠ '\\') (c : Char)
    (text : List Char) :
    ∃ d more, escapeWhere (· == quote) (c :: text) = d :: more ∧ d ≠ quote := by
  rw [escapeWhere]
  by_cases hc : c = quote
  · exact ⟨_, _, if_pos (beq_iff_eq.2 hc), hquote.symm⟩
  · exact ⟨_, _, if_neg (by simpa using hc), hc⟩

/-- A text between quotes is read back, unless it ends with a backslash: a backslash in it stands
before something that is not the quote, since the quote has a backslash of its own. -/
theorem scanQuoted_escapeWhere {quote : Char} (hquote : quote = '\'' ∨ quote = '"')
    (st : ArgumentState) {text : List Char} (hlast : text.getLast? ≠ some '\\')
    (said s : List Char) :
    scanQuoted st quote said (escapeWhere (· == quote) text ++ quote :: s) =
      scanArguments { st with quoted := some (said ++ text) } s := by
  have hslash : quote ≠ '\\' := by rcases hquote with rfl | rfl <;> decide
  induction text generalizing said with
  | nil =>
    rw [escapeWhere, List.nil_append, List.append_nil, scanQuoted.eq_def]
    simp
  | cons c text ih =>
    have hrest : text.getLast? ≠ some '\\' := by
      intro h
      rw [List.getLast?_cons, h] at hlast
      exact hlast rfl
    have ih := fun said => ih hrest said
    by_cases hc : c = quote
    · rw [escapeWhere, if_pos (beq_iff_eq.2 hc), List.cons_append, List.cons_append, scanQuoted,
        if_neg hslash.symm, if_pos rfl]
      simp [hc, ih]
    · rw [escapeWhere, if_neg (by simpa using hc), List.cons_append]
      by_cases hback : c = '\\'
      · subst hback
        cases text with
        | nil => exact absurd rfl hlast
        | cons d more =>
          obtain ⟨e, rest, hwritten, he⟩ := exists_escapeWhere_cons hslash d more
          have ih := ih (said ++ ['\\'])
          rw [hwritten, List.cons_append] at ih ⊢
          rw [scanQuoted, if_neg hc, if_pos rfl]
          simp [he, ih]
      · rw [scanQuoted.eq_def]
        simp [hc, hback, ih]

/-! ## Lists -/

/-- What has been read when a legible argument has. -/
def Spelling.reached (a : Spelling) (done : List RawArgument) : ArgumentState :=
  match a.quote? with
  | some _ => ⟨done, a.before ++ a.after, some a.text, 0⟩
  | none => ⟨done, a.before ++ (a.text ++ a.after), none, 0⟩

section Lists

variable {a : Spelling}

theorem Spelling.depth_reached (a : Spelling) (done : List RawArgument) :
    (a.reached done).depth = 0 := by
  rw [reached]
  split <;> rfl

/-- A legible argument is ended as it is meant, also where it is the only one of its list. -/
theorem Spelling.IsLegible.finish_reached (h : a.IsLegible) (done : List RawArgument)
    (isLast : Bool) : (a.reached done).finish isLast = done ++ [a.meant] := by
  cases hquote : a.quote? with
  | some quote => simp [reached, meant, hquote, ArgumentState.finish]
  | none =>
    obtain ⟨hne, hfirst, hend⟩ := h.raw hquote
    have htrim := Text.trim_surrounded h.before h.after hfirst hend
    have hblank : (a.reached done).isBlank = false := by
      rw [ArgumentState.isBlank, reached, hquote]
      simpa [htrim] using hne
    rw [ArgumentState.finish, hblank]
    simp [reached, meant, hquote, htrim]

/-- **One legible argument is read** as far as what comes behind it. -/
theorem scanArguments_written (h : a.IsLegible) (done : List RawArgument) (s : List Char) :
    scanArguments ⟨done, [], none, 0⟩ (a.written ++ s) = scanArguments (a.reached done) s := by
  rw [Spelling.written, Spelling.reached]
  cases hquote : a.quote? with
  | some quote =>
    obtain ⟨hquotes, hlast⟩ := h.quoted quote hquote
    simp only [List.append_assoc, List.cons_append]
    rw [scanArguments_blanks h.before, scanArguments_quote hquotes rfl h.before,
      scanQuoted_escapeWhere hquotes _ hlast, scanArguments_blanks h.after]
    rfl
  | none =>
    simp only [List.append_assoc, contains_marks]
    rw [scanArguments_blanks h.before, scanArguments_escapeWhere rfl,
      scanArguments_blanks h.after, List.nil_append, List.append_assoc]

/-- A list of arguments is read after those that have been read already. -/
theorem scanArguments_writeArguments_append {arguments : List Spelling} (hne : arguments ≠ [])
    (h : ∀ a ∈ arguments, a.IsLegible) (done : List RawArgument) (rest : List Char) :
    scanArguments ⟨done, [], none, 0⟩ (writeArguments arguments ++ ')' :: rest) =
      .ok (done ++ arguments.map Spelling.meant, rest) := by
  induction arguments generalizing done with
  | nil => exact absurd rfl hne
  | cons a more ih =>
    have ha := h a List.mem_cons_self
    cases more with
    | nil =>
      rw [writeArguments, scanArguments_written ha, scanArguments_close (a.depth_reached done),
        ha.finish_reached]
      rfl
    | cons b more =>
      have ih := ih (List.cons_ne_nil _ _) fun b hb => h b (List.mem_cons_of_mem _ hb)
      rw [writeArguments, List.append_assoc, List.cons_append, scanArguments_written ha,
        scanArguments_comma (a.depth_reached done), ha.finish_reached, ih]
      simp

/-- **What is written is read back**: of a list of legible arguments that is closed by a
parenthesis, whatever follows, exactly the arguments are read that are meant, in their order, each
with whether it is quoted, and what follows is left. -/
theorem scanArguments_writeArguments {arguments : List Spelling} (hne : arguments ≠ [])
    (h : ∀ a ∈ arguments, a.IsLegible) (rest : List Char) :
    scanArguments .start (writeArguments arguments ++ ')' :: rest) =
      .ok (arguments.map Spelling.meant, rest) :=
  scanArguments_writeArguments_append hne h [] rest

end Lists

/-- A quoted text with a backslash right before a quote, an empty one, and a raw text. -/
def motto : List Spelling :=
  [⟨" ".toList, some '\'', "a\\'b,".toList, []⟩, ⟨[], some '"', [], " ".toList⟩,
    ⟨" ".toList, none, "(x) \\d".toList, []⟩]

/-- Two backslashes stand before the quote that is meant, and both are read right. -/
theorem scanArguments_writeArguments_motto :
    motto ≠ [] ∧ (∀ a ∈ motto, a.IsLegible) ∧
      writeArguments motto = " 'a\\\\'b,',\"\" , \\(x\\) \\\\d".toList ∧
      scanArguments .start (" 'a\\\\'b,',\"\" , \\(x\\) \\\\d".toList ++ ')' :: ",b".toList) =
        .ok ([⟨"a\\'b,".toList, true⟩, ⟨[], true⟩, ⟨"(x) \\d".toList, false⟩], ",b".toList) := by
  have hne : motto ≠ [] := List.cons_ne_nil _ _
  have hlegible : ∀ a ∈ motto, a.IsLegible := by decide
  have hwritten : writeArguments motto = " 'a\\\\'b,',\"\" , \\(x\\) \\\\d".toList := by
    decide
  have hread := scanArguments_writeArguments hne hlegible ",b".toList
  rw [hwritten] at hread
  exact ⟨hne, hlegible, hwritten, hread⟩

end FieldRules.Constraint
