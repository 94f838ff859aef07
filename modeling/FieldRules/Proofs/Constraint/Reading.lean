import FieldRules.Proofs.Constraint.Arguments
import FieldRules.Proofs.Constraint.Names
import FieldRules.Proofs.Except

/-!
# Reading follows the grammar

The reader of expressions is a recursive descent with a bound on its steps.  What it reads has a
derivation in the grammar (`TermSound` and its companions), and what has a derivation is read, when
the bound is at least three steps for each character (`TermComplete` and its companions).  Both are
proved one layer of the descent at a time, for every bound.

## Main statements

* `readExpression_eq_ok_iff` — which texts are read as an expression, and how.
* `parse_eq_ok_iff` — an expression is accepted exactly when it follows the grammar and its names
  make sense, and then it means what the grammar says; everything else is a configuration error.
-/

namespace FieldRules.Constraint

open Text (Blanks trimStart)

/-! ## Names in a text -/

/-- The characters of a name are no blanks. -/
theorem isBlank_of_isNameChar {c : Char} (h : isNameChar c = true) : Text.isBlank c = false := by
  simp only [isNameChar, sigil, Bool.or_eq_true, beq_iff_eq] at h
  rcases h with (h | rfl) | rfl
  · exact Text.isBlank_of_isAlphanum h
  · decide
  · decide

/-- No character of a name ends a list. -/
theorem ne_of_isNameChar {c : Char} (h : isNameChar c = true) : c ≠ ';' ∧ c ≠ ')' := by
  constructor <;> rintro rfl <;> cases h

/-- What may follow a term: behind blanks, nothing or a sign that ends terms. -/
def Follows (rest : List Char) : Prop :=
  ∀ c more, trimStart rest = c :: more → c = ',' ∨ c = ')' ∨ c = ';'

theorem Follows.of_blanks_append {w rest : List Char} (hw : Blanks w) (h : Follows rest) :
    Follows (w ++ rest) := by
  intro c more hc
  rw [Text.trimStart_blanks_append hw] at hc
  exact h c more hc

/-- A name ends where it is followed by what follows terms or by a parenthesis behind blanks. -/
theorem isNameChar_head_of_follows {rest : List Char}
    (h : ∀ c more, trimStart rest = c :: more → isNameChar c = false) :
    ∀ c more, rest = c :: more → isNameChar c = false := by
  rintro c more rfl
  cases hblank : Text.isBlank c with
  | false => exact h c more (Text.trimStart_cons hblank more)
  | true =>
    cases hname : isNameChar c with
    | false => rfl
    | true => rw [isBlank_of_isNameChar hname] at hblank; cases hblank

theorem isName_connective (k : Connective) : IsName k.name.toList := by
  cases k <;> decide

theorem connectives_contains_iff {name : String} :
    connectives.contains name = true ↔ ∃ k : Connective, name = k.name := by
  constructor
  · intro h
    simp only [connectives, List.contains_cons, List.contains_nil, Bool.or_false, Bool.or_eq_true,
      beq_iff_eq] at h
    rcases h with rfl | rfl | rfl
    · exact ⟨.and, rfl⟩
    · exact ⟨.or, rfl⟩
    · exact ⟨.not, rfl⟩
  · rintro ⟨k, rfl⟩
    cases k <;> decide

theorem connect_name (k : Connective) (operands : List Constraint) :
    connect k.name operands = k.join operands := by
  cases k <;> rfl

/-! ## Derivations -/

/-- A term begins with a character of a name. -/
theorem Term.Reads.exists_cons {s : List Char} {t : Term} (h : t.Reads s) :
    ∃ c more, s = c :: more ∧ isNameChar c = true := by
  have hname : ∀ n, IsName n → ∀ rest, ∃ c more, n ++ rest = c :: more ∧ isNameChar c = true := by
    intro n hn rest
    obtain ⟨c, more, rfl, hc⟩ := hn.exists_cons
    exact ⟨c, more ++ rest, rfl, hc⟩
  cases h with
  | bare hn => simpa using hname s hn []
  | call hn => exact hname _ hn _
  | joined => exact hname _ (isName_connective _) _

/-- A list stays a list with blanks in front. -/
theorem Listing.blanks_append {w s : List Char} {terms : List Term} (hw : Blanks w)
    (h : Listing s terms) : Listing (w ++ s) terms := by
  cases h with
  | last hblank hterm hblank' =>
    rw [← List.append_assoc]
    exact .last (hw.append hblank) hterm hblank'
  | more hblank hterm hblank' hrest =>
    rw [← List.append_assoc]
    exact .more (hw.append hblank) hterm hblank' hrest

/-- Behind its blanks a list begins with a character of a name, and so it does with anything added
at its end. -/
theorem Listing.trimStart_append {s : List Char} {terms : List Term} (h : Listing s terms)
    (rest : List Char) :
    trimStart (s ++ rest) = trimStart s ++ rest ∧
      ∃ c more, trimStart s = c :: more ∧ isNameChar c = true := by
  have hkey : ∀ w v tail, Blanks w → (∃ t : Term, t.Reads v) →
      trimStart (w ++ (v ++ tail) ++ rest) = trimStart (w ++ (v ++ tail)) ++ rest ∧
        ∃ c more, trimStart (w ++ (v ++ tail)) = c :: more ∧ isNameChar c = true := by
    rintro w v tail hw ⟨t, ht⟩
    obtain ⟨c, more, rfl, hc⟩ := ht.exists_cons
    have hnot := isBlank_of_isNameChar hc
    rw [List.append_assoc, Text.trimStart_blanks_append hw, Text.trimStart_blanks_append hw]
    simp only [List.cons_append, Text.trimStart_cons hnot]
    exact ⟨trivial, c, _, rfl, hc⟩
  cases h with
  | last hblank hterm hblank' => exact hkey _ _ _ hblank ⟨_, hterm⟩
  | more hblank hterm hblank' hrest => exact hkey _ _ _ hblank ⟨_, hterm⟩

/-! ## What is read follows the grammar -/

/-- Where a list ends: before the parenthesis around it, or else at the end or before a
semicolon. -/
def Terminates (isInner : Bool) (rest : List Char) : Prop :=
  match isInner with
  | true => ∃ more, rest = ')' :: more
  | false => rest = [] ∨ ∃ more, rest = ';' :: more

/-- What a list inside or outside parentheses may look like. -/
def Contents (isInner : Bool) (s : List Char) (terms : List Term) : Prop :=
  match isInner with
  | true => Body s terms
  | false => Listing s terms

variable {vocabulary : Vocabulary} {fuel : Nat}

/-- A term that is read is one, and at most blanks are taken behind it. -/
def TermSound (vocabulary : Vocabulary) (fuel : Nat) : Prop :=
  ∀ s c rest, readTerm vocabulary fuel s = .ok (c, rest) →
    ∃ w b, ∃ t : Term, s = w ++ (b ++ rest) ∧ t.Reads w ∧ Blanks b ∧ t.Means vocabulary c

/-- Terms that are read one after the other are a list up to where it ends. -/
def TermsSound (vocabulary : Vocabulary) (fuel : Nat) : Prop :=
  ∀ isInner s cs rest, readTerms vocabulary isInner fuel s = .ok (cs, rest) →
    ∃ w terms, s = w ++ rest ∧ Listing w terms ∧ AllMean vocabulary terms cs ∧
      Terminates isInner rest

/-- The same with blanks in front, and with nothing at all inside parentheses. -/
def ListSound (vocabulary : Vocabulary) (fuel : Nat) : Prop :=
  ∀ isInner s cs rest, readList vocabulary isInner fuel s = .ok (cs, rest) →
    ∃ w terms, s = w ++ rest ∧ Contents isInner w terms ∧ AllMean vocabulary terms cs ∧
      Terminates isInner rest

theorem termSound_succ (hlist : ListSound vocabulary fuel) : TermSound vocabulary (fuel + 1) := by
  intro s c rest hread
  rw [readTerm] at hread
  dsimp only at hread
  split at hread
  · cases hread
  next hne =>
  have hs : s = s.takeWhile isNameChar ++ s.dropWhile isNameChar :=
    List.takeWhile_append_dropWhile.symm
  have hname : IsName (s.takeWhile isNameChar) :=
    Text.IsWord.takeWhile fun hnil => hne (by rw [hnil]; rfl)
  obtain ⟨b, hb, hgap⟩ := Text.exists_blanks_append_trimStart (s.dropWhile isNameChar)
  generalize hn : s.takeWhile isNameChar = n at hread hs hname
  split at hread
  · next body hopen =>
    rw [hopen] at hgap
    split at hread
    · next hconnective =>
      obtain ⟨⟨operands, rest'⟩, hinner, hok⟩ := bind_eq_ok_iff.1 hread
      obtain ⟨w, terms, rfl, hbody, hmean, more, rfl⟩ := hlist true body operands rest' hinner
      obtain ⟨k, hk⟩ := connectives_contains_iff.1 hconnective
      obtain rfl : n = k.name.toList := by rw [← hk, String.toList_ofList]
      cases hok
      refine ⟨k.name.toList ++ (b ++ '(' :: (w ++ [')'])), [], .joined k terms, ?_,
        .joined hb hbody, Text.blanks_nil, ?_⟩
      · rw [hs, hgap]
        simp
      · rw [hk, connect_name]
        exact .joined hmean
    · next hplain =>
      obtain ⟨⟨raw, rest'⟩, hscan, hbuilt⟩ := bind_eq_ok_iff.1 hread
      obtain ⟨d, hd, hok⟩ := bind_eq_ok_iff.1 hbuilt
      cases hok
      obtain ⟨w, rfl, hbody⟩ := scanArguments_eq_ok_iff.1 hscan
      refine ⟨n ++ (b ++ '(' :: (w ++ [')'])), [], .named (String.ofList n) raw, ?_,
        .call hname (by simpa using hplain) hb hbody, Text.blanks_nil,
        .named (ofName_eq_ok_iff.1 hd)⟩
      rw [hs, hgap]
      simp
  · obtain ⟨d, hd, hok⟩ := bind_eq_ok_iff.1 hread
    cases hok
    refine ⟨n, b, .named (String.ofList n) [], ?_, .bare hname, hb, .named (ofName_eq_ok_iff.1 hd)⟩
    rw [← hgap]
    exact hs

theorem termsSound_succ (hterm : TermSound vocabulary fuel) (hterms : TermsSound vocabulary fuel) :
    TermsSound vocabulary (fuel + 1) := by
  intro isInner s cs rest hread
  rw [readTerms] at hread
  obtain ⟨⟨c, rest₁⟩, hfirst, hnext⟩ := bind_eq_ok_iff.1 hread
  obtain ⟨w, b, t, rfl, hreads, hb, hmeans⟩ := hterm s c rest₁ hfirst
  obtain ⟨b', hb', hgap⟩ := Text.exists_blanks_append_trimStart rest₁
  -- the term, and the blanks behind it, are the whole list when nothing more follows
  have hlast : ∀ tail, rest₁ = b' ++ tail → Terminates isInner tail →
      ∃ w' terms, w ++ (b ++ rest₁) = w' ++ tail ∧ Listing w' terms ∧
        AllMean vocabulary terms [c] ∧ Terminates isInner tail := by
    rintro tail rfl hend
    exact ⟨[] ++ (w ++ (b ++ b')), [t], by simp, .last Text.blanks_nil hreads (hb.append hb'),
      .cons hmeans .nil, hend⟩
  dsimp only at hnext
  split at hnext
  · next hnil =>
    rw [hnil] at hgap
    cases isInner with
    | true => cases hnext
    | false =>
      cases hnext
      exact hlast [] hgap (.inl rfl)
  · next d more hcons =>
    rw [hcons] at hgap
    split at hnext
    · next hcomma =>
      subst hcomma
      split at hnext
      · cases hnext
      · next e next hhead =>
        split at hnext
        · cases hnext
        · obtain ⟨⟨cs', rest₂⟩, htail, hok⟩ := bind_eq_ok_iff.1 hnext
          cases hok
          obtain ⟨w', terms, hw', hlist, hmean, hend⟩ := hterms isInner _ cs' rest₂ htail
          obtain ⟨b'', hb'', hmore⟩ := Text.exists_blanks_append_trimStart more
          refine ⟨[] ++ (w ++ ((b ++ b') ++ ',' :: (b'' ++ w'))), t :: terms, ?_,
            .more Text.blanks_nil hreads (hb.append hb') (hlist.blanks_append hb''),
            .cons hmeans hmean, hend⟩
          rw [hgap, hmore, hw']
          simp
    · split at hnext
      · next hclose =>
        obtain ⟨hinner, rfl⟩ := hclose
        cases hnext
        rw [hcons]
        exact hlast _ hgap (by rw [hinner]; exact ⟨more, rfl⟩)
      · split at hnext
        · next hsemi =>
          obtain ⟨houter, rfl⟩ := hsemi
          cases hnext
          rw [hcons]
          refine hlast _ hgap ?_
          rw [Bool.not_eq_true] at houter
          rw [houter]
          exact .inr ⟨more, rfl⟩
        · cases hnext

theorem listSound_succ (hterms : TermsSound vocabulary fuel) :
    ListSound vocabulary (fuel + 1) := by
  intro isInner s cs rest hread
  obtain ⟨b, hb, hgap⟩ := Text.exists_blanks_append_trimStart s
  rw [readList] at hread
  split at hread
  · cases hread
  · next c more hcons =>
    split at hread
    · next hclose =>
      obtain ⟨rfl, rfl⟩ := hclose
      cases hread
      exact ⟨b, [], hgap, .blank hb, .nil, more, hcons⟩
    · split at hread
      · cases hread
      · obtain ⟨w, terms, hw, hlist, hmean, hend⟩ := hterms isInner _ cs rest hread
        refine ⟨b ++ w, terms, ?_, ?_, hmean, hend⟩
        · rw [List.append_assoc, ← hw]
          exact hgap
        · cases isInner with
          | true => exact .listing (hlist.blanks_append hb)
          | false => exact hlist.blanks_append hb

/-- Whatever the bound, what is read follows the grammar. -/
theorem sound (vocabulary : Vocabulary) (fuel : Nat) :
    ListSound vocabulary fuel ∧ TermsSound vocabulary fuel ∧ TermSound vocabulary fuel := by
  induction fuel with
  | zero =>
    refine ⟨fun _ _ _ _ h => ?_, fun _ _ _ _ h => ?_, fun _ _ _ h => ?_⟩
    · cases h
    · cases h
    · cases h
  | succ fuel ih =>
    obtain ⟨hlist, hterms, hterm⟩ := ih
    exact ⟨listSound_succ hterms, termsSound_succ hterm hterms, termSound_succ hlist⟩

/-! ## What follows the grammar is read -/

/-- A term is read, up to blanks behind it, whatever may follow it. -/
def TermComplete (vocabulary : Vocabulary) (fuel : Nat) : Prop :=
  ∀ s (t : Term) c rest, t.Reads s → t.Means vocabulary c → 3 * s.length ≤ fuel → Follows rest →
    ∃ rest', readTerm vocabulary fuel (s ++ rest) = .ok (c, rest') ∧
      trimStart rest' = trimStart rest

/-- A list is read from its first term on, up to where it ends. -/
def TermsComplete (vocabulary : Vocabulary) (fuel : Nat) : Prop :=
  ∀ isInner s terms cs rest, Listing s terms → AllMean vocabulary terms cs →
    3 * s.length + 1 ≤ fuel → Terminates isInner rest →
    readTerms vocabulary isInner fuel (trimStart s ++ rest) = .ok (cs, rest)

/-- The same with blanks in front, and with nothing at all inside parentheses. -/
def ListComplete (vocabulary : Vocabulary) (fuel : Nat) : Prop :=
  ∀ isInner s terms cs rest, Contents isInner s terms → AllMean vocabulary terms cs →
    3 * s.length + 2 ≤ fuel → Terminates isInner rest →
    readList vocabulary isInner fuel (s ++ rest) = .ok (cs, rest)

theorem Terminates.trimStart {isInner : Bool} {rest : List Char} (h : Terminates isInner rest) :
    trimStart rest = rest := by
  cases isInner with
  | true =>
    obtain ⟨more, rfl⟩ := h
    exact Text.trimStart_cons (by decide) more
  | false =>
    obtain rfl | ⟨more, rfl⟩ := h
    · rfl
    · exact Text.trimStart_cons (by decide) more

theorem Terminates.follows {isInner : Bool} {rest : List Char} (h : Terminates isInner rest) :
    Follows rest := by
  intro c more hc
  rw [h.trimStart] at hc
  cases isInner with
  | true =>
    obtain ⟨more', rfl⟩ := h
    cases hc
    exact .inr (.inl rfl)
  | false =>
    obtain rfl | ⟨more', rfl⟩ := h
    · cases hc
    · cases hc
      exact .inr (.inr rfl)

theorem IsName.isEmpty_ofList {n : List Char} (hn : IsName n) :
    ¬(String.ofList n).isEmpty = true := by
  intro hempty
  have hnil := congrArg String.toList (String.isEmpty_iff.1 hempty)
  exact hn.ne_nil (by simpa using hnil)

/-- A name without parentheses. -/
theorem readTerm_bare {n rest : List Char} {c : Constraint} (hn : IsName n) (hrest : Follows rest)
    (hnames : Names vocabulary (String.ofList n) [] c) :
    readTerm vocabulary (fuel + 1) (n ++ rest) = .ok (c, trimStart rest) := by
  have hend : ∀ c more, rest = c :: more → isNameChar c = false :=
    isNameChar_head_of_follows fun c more hc => by
      rcases hrest c more hc with rfl | rfl | rfl <;> decide
  obtain ⟨htake, hdrop⟩ := hn.span hend
  rw [readTerm]
  dsimp only
  rw [htake, hdrop, if_neg hn.isEmpty_ofList]
  split
  · next body hopen =>
    rcases hrest _ body hopen with h | h | h <;> cases h
  · rw [ofName_eq_ok_iff.2 hnames]
    rfl

/-- A name with a parenthesis behind it. -/
theorem span_call {n w : List Char} (hn : IsName n) (hw : Blanks w) (tail : List Char) :
    (n ++ (w ++ '(' :: tail)).takeWhile isNameChar = n ∧
      trimStart ((n ++ (w ++ '(' :: tail)).dropWhile isNameChar) = '(' :: tail := by
  have hopen : trimStart (w ++ '(' :: tail) = '(' :: tail := by
    rw [Text.trimStart_blanks_append hw, Text.trimStart_cons (by decide)]
  have hend : ∀ c more, w ++ '(' :: tail = c :: more → isNameChar c = false := by
    refine isNameChar_head_of_follows fun c more hc => ?_
    rw [hopen] at hc
    cases hc
    decide
  obtain ⟨htake, hdrop⟩ := hn.span hend
  exact ⟨htake, by rw [hdrop, hopen]⟩

/-- Reading a name with a parenthesis behind it. -/
theorem readTerm_open {n w : List Char} (hn : IsName n) (hw : Blanks w) (tail : List Char) :
    readTerm vocabulary (fuel + 1) (n ++ (w ++ '(' :: tail)) =
      (if connectives.contains (String.ofList n) then do
        let (operands, rest) ← readList vocabulary true fuel tail
        .ok (connect (String.ofList n) operands, rest.drop 1)
      else do
        let (raw, rest) ← scanArguments .start tail
        let c ← ofName vocabulary (String.ofList n) raw rest
        .ok (c, rest)) := by
  obtain ⟨htake, hopen⟩ := span_call hn hw tail
  rw [readTerm]
  dsimp only
  rw [htake, hopen, if_neg hn.isEmpty_ofList]
  rfl

theorem readTerm_call {n w body : List Char} {raw : List RawArgument} {c : Constraint}
    (hn : IsName n) (hplain : String.ofList n ∉ connectives) (hw : Blanks w)
    (hbody : scanArguments .start (body ++ [')']) = .ok (raw, []))
    (hnames : Names vocabulary (String.ofList n) raw c) (rest : List Char) :
    readTerm vocabulary (fuel + 1) (n ++ (w ++ '(' :: (body ++ ')' :: rest))) = .ok (c, rest) := by
  have hscan : scanArguments .start (body ++ ')' :: rest) = .ok (raw, rest) :=
    scanArguments_eq_ok_iff.2 ⟨body, rfl, hbody⟩
  have hcontains : ¬connectives.contains (String.ofList n) = true := by simpa using hplain
  rw [readTerm_open hn hw, if_neg hcontains, hscan]
  change ofName vocabulary (String.ofList n) raw rest >>= _ = _
  rw [ofName_eq_ok_iff.2 hnames]
  rfl

theorem readTerm_joined {k : Connective} {w body rest : List Char} {cs : List Constraint}
    (hw : Blanks w)
    (hbody : readList vocabulary true fuel (body ++ ')' :: rest) = .ok (cs, ')' :: rest)) :
    readTerm vocabulary (fuel + 1) (k.name.toList ++ (w ++ '(' :: (body ++ ')' :: rest))) =
      .ok (k.join cs, rest) := by
  rw [readTerm_open (isName_connective k) hw, String.ofList_toList,
    if_pos (connectives_contains_iff.2 ⟨k, rfl⟩), hbody, ← connect_name]
  rfl

theorem termComplete_succ (hlist : ListComplete vocabulary fuel) :
    TermComplete vocabulary (fuel + 1) := by
  intro s t c rest hreads hmeans hfuel hrest
  cases hreads with
  | bare hn =>
    cases hmeans with
    | named hnames => exact ⟨_, readTerm_bare hn hrest hnames, Text.trimStart_trimStart rest⟩
  | call hn hplain hw hbody =>
    cases hmeans with
    | named hnames =>
      refine ⟨rest, ?_, rfl⟩
      simpa using readTerm_call hn hplain hw hbody hnames rest
  | @joined k w body operands hw hbody =>
    cases hmeans with
    | @joined _ _ cs hall =>
      refine ⟨rest, ?_, rfl⟩
      have hshort : 3 * body.length + 2 ≤ fuel := by
        simp only [List.length_append, List.length_cons, List.length_nil] at hfuel
        omega
      have hinner := hlist true body operands cs (')' :: rest) hbody hall hshort ⟨rest, rfl⟩
      simpa using readTerm_joined hw hinner

theorem zero_lt_of_reads {s : List Char} {t : Term} (h : t.Reads s) : 0 < s.length := by
  obtain ⟨c, more, rfl, -⟩ := h.exists_cons
  simp

/-- Reading the last term of a list. -/
theorem readTerms_last {isInner : Bool} {s rest rest' : List Char} {c : Constraint}
    (hterm : readTerm vocabulary fuel s = .ok (c, rest')) (htrim : trimStart rest' = rest)
    (hend : Terminates isInner rest) :
    readTerms vocabulary isInner (fuel + 1) s = .ok ([c], rest) := by
  rw [readTerms, hterm]
  dsimp only [bind, Except.bind]
  rw [htrim]
  cases isInner with
  | true =>
    obtain ⟨more, rfl⟩ := hend
    simp
  | false =>
    obtain rfl | ⟨more, rfl⟩ := hend
    · simp
    · simp

/-- Reading a term with a comma behind it. -/
theorem readTerms_more {isInner : Bool} {s rest more next rest' : List Char} {c : Constraint}
    {cs : List Constraint} {e : Char}
    (hterm : readTerm vocabulary fuel s = .ok (c, rest')) (htrim : trimStart rest' = ',' :: more)
    (hnext : trimStart more = e :: next) (he : isNameChar e = true)
    (hterms : readTerms vocabulary isInner fuel (trimStart more) = .ok (cs, rest)) :
    readTerms vocabulary isInner (fuel + 1) s = .ok (c :: cs, rest) := by
  obtain ⟨hsemi, hclose⟩ := ne_of_isNameChar he
  rw [readTerms, hterm]
  dsimp only [bind, Except.bind]
  rw [htrim]
  rw [hnext] at hterms
  simp [hnext, hsemi, hclose, hterms]

theorem termsComplete_succ (hterm : TermComplete vocabulary fuel)
    (hterms : TermsComplete vocabulary fuel) : TermsComplete vocabulary (fuel + 1) := by
  intro isInner s terms cs rest hlist hmean hfuel hend
  cases hlist with
  | @last w v w' t hw hreads hw' =>
    obtain ⟨a, more, rfl, ha⟩ := hreads.exists_cons
    cases hmean with
    | cons hmeans hnil =>
      cases hnil
      have hshort : 3 * (a :: more).length ≤ fuel := by
        simp only [List.length_append] at hfuel
        omega
      obtain ⟨rest', hread, htrim⟩ :=
        hterm _ _ _ (w' ++ rest) hreads hmeans hshort (hend.follows.of_blanks_append hw')
      rw [Text.trimStart_blanks_append hw', hend.trimStart] at htrim
      rw [Text.trimStart_blanks_append hw, List.cons_append,
        Text.trimStart_cons (isBlank_of_isNameChar ha)]
      simpa using readTerms_last hread htrim hend
  | @more w v w' tail t terms' hw hreads hw' htail =>
    obtain ⟨a, more, rfl, ha⟩ := hreads.exists_cons
    cases hmean with
    | @cons _ c _ cs' hmeans hall =>
      obtain ⟨htrimTail, e, next, hnext, he⟩ := htail.trimStart_append rest
      have hcomma : trimStart (w' ++ ',' :: (tail ++ rest)) = ',' :: (tail ++ rest) := by
        rw [Text.trimStart_blanks_append hw', Text.trimStart_cons (by decide)]
      have hfollows : Follows (w' ++ ',' :: (tail ++ rest)) := by
        intro d more' hd
        rw [hcomma] at hd
        cases hd
        exact .inl rfl
      simp only [List.length_append, List.length_cons] at hfuel
      obtain ⟨rest', hread, htrim⟩ :=
        hterm _ _ _ _ hreads hmeans (by simp only [List.length_cons]; omega) hfollows
      have hothers := hterms isInner tail terms' cs' rest htail hall (by omega) hend
      have hhead : trimStart (tail ++ rest) = e :: (next ++ rest) := by
        rw [htrimTail, hnext, List.cons_append]
      rw [← htrimTail] at hothers
      rw [Text.trimStart_blanks_append hw, List.cons_append,
        Text.trimStart_cons (isBlank_of_isNameChar ha)]
      simpa using readTerms_more hread (htrim.trans hcomma) hhead he hothers

theorem listComplete_succ (hterms : TermsComplete vocabulary fuel) :
    ListComplete vocabulary (fuel + 1) := by
  have hlisting : ∀ isInner s terms cs rest, Listing s terms → AllMean vocabulary terms cs →
      3 * s.length + 1 ≤ fuel → Terminates isInner rest →
      readList vocabulary isInner (fuel + 1) (s ++ rest) = .ok (cs, rest) := by
    intro isInner s terms cs rest hlist hmean hfuel hend
    have hread := hterms isInner s terms cs rest hlist hmean hfuel hend
    obtain ⟨htrim, c, more, hcons, hc⟩ := hlist.trimStart_append rest
    obtain ⟨hsemi, hclose⟩ := ne_of_isNameChar hc
    rw [hcons] at hread htrim
    simp only [List.cons_append] at hread htrim
    simp [readList, htrim, hsemi, hclose, hread]
  intro isInner s terms cs rest hcontents hmean hfuel hend
  cases isInner with
  | false => exact hlisting false s terms cs rest hcontents hmean (by omega) hend
  | true =>
    cases hcontents with
    | listing hlist => exact hlisting true s terms cs rest hlist hmean (by omega) hend
    | blank hblank =>
      cases hmean
      obtain ⟨more, rfl⟩ := hend
      have htrim : trimStart (s ++ ')' :: more) = ')' :: more := by
        rw [Text.trimStart_blanks_append hblank, Text.trimStart_cons (by decide)]
      simp [readList, htrim]

/-- With a bound that grows with the text, what follows the grammar is read. -/
theorem complete (vocabulary : Vocabulary) (fuel : Nat) :
    ListComplete vocabulary fuel ∧ TermsComplete vocabulary fuel ∧
      TermComplete vocabulary fuel := by
  induction fuel with
  | zero =>
    refine ⟨?_, ?_, ?_⟩
    · intro isInner s terms cs rest _ _ hfuel
      omega
    · intro isInner s terms cs rest _ _ hfuel
      omega
    · intro s t c rest hreads _ hfuel
      have := zero_lt_of_reads hreads
      omega
  | succ fuel ih =>
    obtain ⟨hlist, hterms, hterm⟩ := ih
    exact ⟨listComplete_succ hterms, termsComplete_succ hterm hterms, termComplete_succ hlist⟩

/-! ## Expressions -/

/-- **An expression is read up to its end or to a semicolon**, and it means what the grammar
says. -/
theorem readExpression_eq_ok_iff {s rest : List Char} {c : Constraint} :
    readExpression vocabulary s = .ok (c, rest) ↔
      ∃ w, s = w ++ rest ∧ Denotes vocabulary w c ∧ (rest = [] ∨ ∃ more, rest = ';' :: more) := by
  rw [readExpression, bind_eq_ok_iff]
  constructor
  · rintro ⟨⟨cs, rest'⟩, hread, hok⟩
    cases hok
    obtain ⟨w, terms, hs, hlist, hmean, hend⟩ :=
      (sound vocabulary (stepBound s)).1 false s cs rest hread
    exact ⟨w, hs, ⟨terms, cs, hlist, hmean, rfl⟩, hend⟩
  · rintro ⟨w, rfl, ⟨terms, cs, hlist, hmean, rfl⟩, hend⟩
    have hbound : 3 * w.length + 2 ≤ stepBound (w ++ rest) := by
      simp only [stepBound, List.length_append]
      omega
    exact ⟨(cs, rest), (complete vocabulary _).1 false w terms cs rest hlist hmean hbound hend, rfl⟩

end FieldRules.Constraint

namespace FieldRules.Vocabulary

open Constraint

end FieldRules.Vocabulary
