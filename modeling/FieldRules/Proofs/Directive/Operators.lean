import FieldRules.Proofs.Directive.Nesting

/-!
# Where a directive is composed

A directive is composed at the first `?` or `&` after its first character that is outside quotes and
parentheses, has no backslash before it, and is not a `?` with which, blanks aside, a configuration
begins.  Configurations begin where the segments of the directive say so: at a segment, or behind
the scope in front of it.  The search for an operator decides it by what it has just seen, and it
agrees with the segments except for a `?` behind a colon that ends no scope.

## Main definitions

* `Directive.configStarts` — where the configurations of segments begin.
* `Directive.IsOperator` — whether a character is an operator by the segments around it.
* `Directive.composedAt` — what a directive comes to that is composed at an operator.

## Main statements

* `Directive.ends_of_beginsConfig`, `Directive.beginsConfig_of_endsIn` — where configurations begin
  by the segments, and where the search takes them to begin.
* `Directive.isOperator_of_operator?`, `Directive.operator?_of_isOperator` — the operators by the
  segments, and what the search takes for them.
* `Directive.plan_composes` — where a directive is composed.
-/

namespace FieldRules.Directive

/-! ## Operators by segments -/

/-- What stands in a segment before the first character, blanks aside, of its configuration. -/
def configStart (segment : List Char) : List Char :=
  segment.take (segment.length - (Text.trimStart (splitScope segment).2).length)

/-- What stands before the first character, blanks aside, of the configuration of each segment. -/
def configStarts (before : List Char) : List (List Char) → List (List Char)
  | [] => []
  | segment :: rest =>
    (before ++ configStart segment) :: configStarts (before ++ segment ++ [';']) rest

/-- Whether a `?` is the first character, blanks aside, of the configuration of a segment. -/
def BeginsConfig (left right : List Char) : Prop :=
  left ∈ configStarts [] (splitUnescaped ';' (left ++ '?' :: right))

instance (left right : List Char) : Decidable (BeginsConfig left right) :=
  inferInstanceAs (Decidable (left ∈ configStarts [] (splitUnescaped ';' (left ++ '?' :: right))))

/-- Whether the sign of a composition between two texts is an operator: it stands outside quotes and
parentheses and no backslash makes it stand for itself, and it begins no configuration. -/
def IsOperator (left : List Char) (op : Composition) (right : List Char) : Prop :=
  Nests 0 left ∧ (op = .fallback → ¬ BeginsConfig left right)

instance (left : List Char) (op : Composition) (right : List Char) :
    Decidable (IsOperator left op right) :=
  inferInstanceAs (Decidable (_ ∧ (_ → _)))

/-! ## Where configurations begin -/

/-- A backslash waits for a character where the search says so. -/
theorem openAfter_escapes (s : List Char) : (openAfter s).2.2 = escapes s := by
  induction s using List.reverseRecOn with
  | nil => rfl
  | append_singleton s c ih =>
    rw [escapes] at ih ⊢
    rw [openAfter_concat, List.foldl_concat, ← ih]
    obtain ⟨n, quote?, waits⟩ := openAfter s
    cases waits with
    | true => rfl
    | false =>
      by_cases hc : c = '\\'
      · simp [Inside.turn, hc]
      · simp only [Inside.turn, hc, if_false]
        cases quote? <;> simp only [] <;> (repeat' split) <;> simp [hc]

section ConfigStart

variable {s left right segment w : List Char}

/-- A configuration is a segment or what stands behind a colon in it. -/
theorem splitScope_config (segment : List Char) :
    (splitScope segment).2 = segment ∨
      ∃ before, segment = before ++ ':' :: (splitScope segment).2 ∧ escapes before = false := by
  rw [splitScope]
  split
  · next before after hcolon =>
    obtain ⟨hsegment, hbefore⟩ := splitColon?_eq_some hcolon
    by_cases hname : (!(Text.trim before).isEmpty && (Text.trim before).all isScopeChar) = true
    · simp only [hname, if_true]
      exact .inr ⟨before, hsegment, hbefore⟩
    · simp only [hname]
      exact .inl rfl
  · exact .inl rfl

/-- What stands before the configuration, with the blanks in front of it, and the rest of it. -/
theorem configStart_append (segment : List Char) :
    configStart segment ++ Text.trimStart (splitScope segment).2 = segment := by
  have hconfig : (splitScope segment).2 <:+ segment := by
    rcases splitScope_config segment with hwhole | ⟨before, hsegment, -⟩
    · exact ⟨[], hwhole⟩
    · exact ⟨before ++ [':'], by simpa using hsegment.symm⟩
  exact List.suffix_iff_eq_append.1 ((List.dropWhile_suffix _).trans hconfig)

/-- A configuration begins, blanks aside, with its segment or behind a colon in it. -/
theorem exists_configStart (segment : List Char) : ∃ w, Text.Blanks w ∧
    (configStart segment = w ∨
      ∃ before, configStart segment = before ++ ':' :: w ∧ escapes before = false) := by
  obtain ⟨w, hw, hconfig⟩ := Text.exists_blanks_append_trimStart (splitScope segment).2
  have happend := configStart_append segment
  refine ⟨w, hw, ?_⟩
  rcases splitScope_config segment with hwhole | ⟨before, hsegment, hbefore⟩
  · refine .inl (List.append_cancel_right (happend.trans ?_))
    rw [← hconfig, hwhole]
  · refine .inr ⟨before, List.append_cancel_right (happend.trans ?_), hbefore⟩
    rw [List.append_assoc, List.cons_append, ← hconfig, ← hsegment]

/-- Blanks and a question mark are neither backslashes nor separators. -/
theorem ne_of_mem_question (hw : Text.Blanks w) {c : Char} (hc : c ∈ w ++ ['?']) :
    c ≠ '\\' ∧ c ≠ ';' ∧ c ≠ ':' := by
  rcases List.mem_append.1 hc with hc | hc
  · have hescapable := (isPlain_of_isBlank (hw c hc)).1
    refine ⟨?_, ?_, ?_⟩ <;> rintro rfl <;> cases hescapable
  · obtain rfl := List.mem_singleton.1 hc
    decide

/-- No name of a scope has a question mark in it, so that a segment that begins with one, blanks
aside, is all configuration. -/
theorem splitScope_question (hw : Text.Blanks w) (rest : List Char) :
    (splitScope (w ++ '?' :: rest)).2 = w ++ '?' :: rest := by
  rw [splitScope, List.append_cons,
    splitColon?_append (fun c hc => ⟨(ne_of_mem_question hw hc).1,
      (ne_of_mem_question hw hc).2.2⟩)]
  cases splitColon? rest with
  | none => rfl
  | some r =>
    have hmem : '?' ∈ Text.trim (w ++ ['?'] ++ r.1) := Text.mem_trim (by decide) (by simp)
    have hname : (Text.trim (w ++ ['?'] ++ r.1)).all isScopeChar = false :=
      List.all_eq_false.2 ⟨'?', hmem, by decide⟩
    simp only [Option.map_some, hname, Bool.and_false, Bool.false_eq_true, if_false]

/-- A question mark that begins a segment, blanks aside, begins its configuration. -/
theorem configStart_question (hw : Text.Blanks w) (rest : List Char) :
    configStart (w ++ '?' :: rest) = w := by
  have hblank : Text.isBlank '?' = false := by decide
  have happend := configStart_append (w ++ '?' :: rest)
  rw [splitScope_question hw, Text.trimStart_blanks_append hw,
    Text.trimStart_cons hblank] at happend
  exact List.append_cancel_right happend

theorem configStarts_append (before : List Char) (parts more : List (List Char)) :
    configStarts before (parts ++ more) = configStarts before parts ++
      configStarts (before ++ parts.flatMap (· ++ [';'])) more := by
  induction parts generalizing before with
  | nil => simp [configStarts]
  | cons part parts ih => simp [configStarts, ih]

/-- A question mark that is first, blanks aside, in a text or behind a semicolon that is neither
quoted nor escaped begins a configuration. -/
theorem beginsConfig_of_endsIn (h : Text.Blanks left ∨ EndsIn ';' left) (right : List Char) :
    BeginsConfig left right := by
  have hfirst : ∀ (before w : List Char), Text.Blanks w →
      before ++ w ∈ configStarts before (splitUnescaped ';' (w ++ '?' :: right)) := by
    intro before w hw
    have hplain : ∀ c ∈ w ++ ['?'], c ≠ '\\' ∧ c ≠ ';' := fun c hc =>
      ⟨(ne_of_mem_question hw hc).1, (ne_of_mem_question hw hc).2.1⟩
    obtain ⟨part, later, hright⟩ := exists_splitUnescaped ';' right
    rw [List.append_cons, splitUnescaped_append hplain, hright, List.modifyHead_cons, configStarts,
      ← List.append_cons, configStart_question hw]
    exact List.mem_cons_self
  rcases h with hblank | ⟨n, before, w, rfl, hbefore, hw⟩
  · exact hfirst [] left hblank
  · have hescapes : escapes before = false := by
      rw [← openAfter_escapes, nests_iff.1 hbefore]
    have hmem := hfirst (before ++ [';']) w hw
    rw [BeginsConfig, List.append_assoc, List.cons_append,
      splitUnescaped_append_separator hescapes (by decide), configStarts_append,
      flatMap_splitUnescaped, List.mem_append]
    exact .inr (by simpa using hmem)

/-- A configuration begins, blanks aside, with a segment or behind a colon that no backslash waits
for, and a segment begins with the text or behind a semicolon that none waits for. -/
theorem exists_separator_of_mem_configStarts {before : List Char}
    (hbefore : before = [] ∨ ∃ l, before = l ++ [';'] ∧ escapes l = false)
    (h : left ∈ configStarts before (splitUnescaped ';' s)) :
    Text.Blanks left ∨ ∃ sep l w, IsSeparator sep ∧ left = l ++ sep :: w ∧ escapes l = false ∧
      Text.Blanks w := by
  -- what stands before a part is nothing, or ends in the semicolon that the part is behind
  obtain ⟨parts, hparts⟩ : ∃ parts, splitUnescaped ';' s = parts := ⟨_, rfl⟩
  have hescapes : escapes before = false := by
    rcases hbefore with rfl | ⟨l, rfl, hl⟩
    · rfl
    · rw [escapes_append hl]
      rfl
  rw [hparts] at h
  induction parts generalizing s before with
  | nil => cases h
  | cons part later ih =>
    rcases List.mem_cons.1 h with rfl | h
    · obtain ⟨w, hw, hstart | ⟨first, hstart, hfirst⟩⟩ := exists_configStart part
      · rcases hbefore with rfl | ⟨l, rfl, hl⟩
        · exact .inl (by rwa [hstart])
        · exact .inr ⟨';', l, w, .inl rfl, by simp [hstart], hl, hw⟩
      · exact .inr ⟨':', before ++ first, w, .inr rfl, by simp [hstart],
          by rw [escapes_append hescapes, hfirst], hw⟩
    · rcases splitUnescaped_eq_cons hparts with ⟨-, rfl⟩ | ⟨rest, -, hpart, hrest⟩
      · cases h
      · have hl : escapes (before ++ part) = false := by rw [escapes_append hescapes, hpart]
        exact ih (.inr ⟨before ++ part, rfl, hl⟩) h hrest (by rw [escapes_append hl]; rfl)

/-- **Where a configuration begins by the segments**, outside quotes, is where the search takes one
to begin. -/
theorem ends_of_beginsConfig {n : Nat} (hleft : Nests n left) (h : BeginsConfig left right) :
    Text.Blanks left ∨ EndsIn ';' left ∨ EndsIn ':' left := by
  rcases exists_separator_of_mem_configStarts (.inl rfl) h with
    hblank | ⟨sep, l, w, hsep, rfl, hl, hw⟩
  · exact .inl hblank
  · -- what is open before the separator is what is open after it
    have hopen := openAfter_separator hsep hw (by rw [openAfter_escapes, hl])
    have hends : EndsIn sep (l ++ sep :: w) :=
      ⟨n, l, w, rfl, nests_iff.2 (hopen.symm.trans (nests_iff.1 hleft)), hw⟩
    rcases hsep with rfl | rfl
    · exact .inr (.inl hends)
    · exact .inr (.inr hends)

end ConfigStart

/-! ## Where the search stops -/

section Search

variable {s left right : List Char} {op : Composition}

/-- The search would stop at a sign outside quotes and parentheses where it takes no configuration
to begin. -/
theorem operator?_eq_some_iff : (left.foldl OperatorScan.next .start).operator? op.sign = some op ↔
    Nests 0 left ∧
      (op = .fallback → ¬ (Text.Blanks left ∨ EndsIn ';' left ∨ EndsIn ':' left)) := by
  have hopen := inside_foldl_next left
  rw [← atConfigStart_foldl_iff, nests_iff, ← hopen]
  generalize left.foldl OperatorScan.next .start = st
  obtain ⟨n, quote?, waits, atStart⟩ := st
  cases op <;> cases quote? <;> cases waits <;> cases atStart <;>
    simp [OperatorScan.operator?, OperatorScan.inside, Composition.sign]

/-- **What the search takes for an operator is one**, by the segments around it. -/
theorem isOperator_of_operator?
    (h : (left.foldl OperatorScan.next .start).operator? op.sign = some op) (right : List Char) :
    IsOperator left op right := by
  obtain ⟨hnests, hstart⟩ := operator?_eq_some_iff.1 h
  exact ⟨hnests, fun hop hbegins => hstart hop (ends_of_beginsConfig hnests hbegins)⟩

/-- **The search finds every operator** but a question mark behind a colon. -/
theorem operator?_of_isOperator (h : IsOperator left op right)
    (hcolon : op = .fallback → ¬ EndsIn ':' left) :
    (left.foldl OperatorScan.next .start).operator? op.sign = some op := by
  refine operator?_eq_some_iff.2 ⟨h.1, fun hop hends => ?_⟩
  rcases hends with hblank | hends | hends
  · exact h.2 hop (beginsConfig_of_endsIn (.inl hblank) right)
  · exact h.2 hop (beginsConfig_of_endsIn (.inr hends) right)
  · exact hcolon hop hends

end Search

/-! ## The first operator -/

section First

variable {P : List Char → Composition → List Char → Prop} {s left right : List Char}
  {op : Composition}

/-- The first place of a text where the sign of a composition stands of which something holds. -/
structure IsFirst (P : List Char → Composition → List Char → Prop) (s left : List Char)
    (op : Composition) (right : List Char) : Prop where
  split : s = left ++ op.sign :: right
  holds : P left op right
  first : ∀ left' op' right', s = left' ++ op'.sign :: right' → P left' op' right' →
    left.length ≤ left'.length

/-- An operator that is not the first character. -/
def IsLaterOperator (left : List Char) (op : Composition) (right : List Char) : Prop :=
  left ≠ [] ∧ IsOperator left op right

instance (left : List Char) (op : Composition) (right : List Char) :
    Decidable (IsLaterOperator left op right) :=
  inferInstanceAs (Decidable (_ ∧ _))

/-- What holds wherever the sign of a composition stands is found place by place. -/
theorem forall_split_iff : (∀ left op right, s = left ++ op.sign :: right → P left op right) ↔
    ∀ i < s.length, ∀ op ∈ [Composition.fallback, .both], s[i]? = some op.sign →
      P (s.take i) op (s.drop (i + 1)) := by
  constructor
  · intro h i hi op _ hop
    refine h _ op _ ?_
    rw [List.getElem?_eq_getElem hi, Option.some.injEq] at hop
    rw [← hop, ← List.drop_eq_getElem_cons hi, List.take_append_drop]
  · rintro h left op right rfl
    simpa using h left.length (by simp) op (by cases op <;> simp) (by simp)

theorem isFirst_iff : IsFirst P s left op right ↔ s = left ++ op.sign :: right ∧
    P left op right ∧ ∀ i < s.length, ∀ op' ∈ [Composition.fallback, .both],
      s[i]? = some op'.sign → P (s.take i) op' (s.drop (i + 1)) →
        left.length ≤ (s.take i).length := by
  rw [← forall_split_iff (P := fun left' op' right' =>
    P left' op' right' → left.length ≤ left'.length)]
  exact ⟨fun h => ⟨h.split, h.holds, h.first⟩, fun h => ⟨h.1, h.2.1, h.2.2⟩⟩

instance [∀ left op right, Decidable (P left op right)] : Decidable (IsFirst P s left op right) :=
  decidable_of_iff _ isFirst_iff.symm

/-- Without an operator after the first character the search finds none. -/
theorem splitComposition?_eq_none
    (h : ∀ left op right, s = left ++ op.sign :: right → ¬ IsLaterOperator left op right) :
    splitComposition? s = none := by
  cases hsplit : splitComposition? s with
  | none => rfl
  | some r =>
    obtain ⟨left, op, right⟩ := r
    obtain ⟨hs, hne, -, hop⟩ := splitComposition?_eq_some_iff.1 hsplit
    exact absurd ⟨hne, isOperator_of_operator? hop right⟩ (h left op right hs)

/-- The search stops at the first operator after the first character. -/
theorem splitComposition?_of_isFirst (h : IsFirst IsLaterOperator s left op right)
    (hcolon : op = .fallback → ¬ EndsIn ':' left) :
    splitComposition? s = some (left, op, right) := by
  refine splitComposition?_eq_some_iff.2
    ⟨h.split, h.holds.1, ?_, operator?_of_isOperator h.holds.2 hcolon⟩
  cases hsplit : splitComposition? left with
  | none => rfl
  | some r =>
    -- an operator in what stands before would come before the first one
    obtain ⟨left', op', right'⟩ := r
    obtain ⟨hleft, hne, -, hop⟩ := splitComposition?_eq_some_iff.1 hsplit
    have hs : s = left' ++ op'.sign :: (right' ++ op.sign :: right) := by
      rw [h.split, hleft, List.append_assoc, List.cons_append]
    have hle := h.first left' op' _ hs ⟨hne, isOperator_of_operator? hop _⟩
    rw [hleft, List.length_append, List.length_cons] at hle
    omega

end First

section Composed

variable {m : Type → Type} [Monad m] [MonadExceptOf Error m] {α : Type}

/-- What a directive comes to that is composed at an operator: neither side may be blank, and each
is a directive of its own. -/
def composedAt (a : Aliases) (leaf : String → String → m (Option α)) (text : String)
    (left : List Char) (op : Composition) (right : List Char) : m (Plan α) :=
  if Text.Blanks left ∨ Text.Blanks right then throw (oneSidedError text op)
  else do
    let before ← (read (String.ofList left)).plan a leaf
    let after ← (read (String.ofList right)).plan a leaf
    pure (Plan.composed op before after)

/-- **Where a directive is composed.**  Without an operator after its first character a directive is
a list of segments.  With one it is composed at the first, unless that is a question mark with
nothing but blanks between it and a colon that ends no scope. -/
theorem plan_composes (a : Aliases) (leaf : String → String → m (Option α)) (text : String) :
    ((∀ left op right, text.toList = left ++ op.sign :: right →
        ¬ IsLaterOperator left op right) →
      (read text).plan a leaf = segmentsPlan a leaf (readSegments text.toList)) ∧
    ∀ left op right, IsFirst IsLaterOperator text.toList left op right →
      (op = .fallback → ¬ EndsIn ':' left) →
        (read text).plan a leaf = composedAt a leaf text left op right := by
  refine ⟨fun hnone => ?_, fun left op right hfirst hcolon => ?_⟩
  · rw [read_eq_segments (splitComposition?_eq_none hnone), plan]
  · have hsplit := splitComposition?_of_isFirst hfirst hcolon
    rw [composedAt]
    by_cases hblank : Text.Blanks left ∨ Text.Blanks right
    · rw [if_pos hblank, read_eq_oneSided hsplit hblank, plan]
    · obtain ⟨hleft, hright⟩ := not_or.1 hblank
      obtain ⟨hwhole, hbefore⟩ := read_eq_compose hsplit hleft hright
      rw [if_neg hblank, hwhole, hbefore, plan, plan]

end Composed

/-- Question marks at the beginning of configurations, in quotes, in parentheses and behind
backslashes are no operators. -/
theorem plan_composes_hidden :
    (∀ left op right, "a: ?='?';?(x&y)\\&".toList = left ++ op.sign :: right →
        ¬ IsLaterOperator left op right) ∧
      (read "a: ?='?';?(x&y)\\&").plan ⟨[]⟩ echo =
        segmentsPlan ⟨[]⟩ echo (readSegments "a: ?='?';?(x&y)\\&".toList) ∧
    IsFirst IsLaterOperator "a: ?='?';*:(x&y) ? =1".toList "a: ?='?';*:(x&y) ".toList .fallback
        " =1".toList ∧
      ¬ EndsIn ':' "a: ?='?';*:(x&y) ".toList ∧
      (read "a: ?='?';*:(x&y) ? =1").plan ⟨[]⟩ echo =
        composedAt ⟨[]⟩ echo "a: ?='?';*:(x&y) ? =1" "a: ?='?';*:(x&y) ".toList .fallback
          " =1".toList := by
  have hnone : ∀ left op right, "a: ?='?';?(x&y)\\&".toList = left ++ op.sign :: right →
      ¬ IsLaterOperator left op right := forall_split_iff.2 (by decide +kernel)
  have hfirst : IsFirst IsLaterOperator "a: ?='?';*:(x&y) ? =1".toList
      "a: ?='?';*:(x&y) ".toList .fallback " =1".toList := by decide +kernel
  have hcolon : ¬ EndsIn ':' "a: ?='?';*:(x&y) ".toList := by
    intro h
    have hstart := (atConfigStart_foldl_iff _).2 (.inr (.inr h))
    revert hstart
    decide
  exact ⟨hnone, (plan_composes ⟨[]⟩ echo _).1 hnone, hfirst, hcolon,
    (plan_composes ⟨[]⟩ echo _).2 _ _ _ hfirst fun _ => hcolon⟩

/-- A `&` that is the first character and a question mark behind a colon that ends no scope are
operators by the segments, and still the directives are lists of segments. -/
theorem plan_not_composes :
    IsFirst IsOperator "&=1".toList [] .both "=1".toList ∧
      (read "&=1").plan ⟨[]⟩ echo ≠ composedAt ⟨[]⟩ echo "&=1" [] .both "=1".toList ∧
    IsFirst IsOperator "=a:?b".toList "=a:".toList .fallback "b".toList ∧
      (read "=a:?b").plan ⟨[]⟩ echo ≠
        composedAt ⟨[]⟩ echo "=a:?b" "=a:".toList .fallback "b".toList := by
  have hfirst : read "&=1" = .segments [⟨"*", "&=1"⟩] := by decide
  have hwhole : readSegments "=a:?b".toList = [⟨"*", "=a:?b"⟩] := by decide
  have hcolon : read "=a:?b" = .segments [⟨"*", "=a:?b"⟩] := by
    rw [read_eq_segments (by decide), hwhole]
  have hleft : read (String.ofList "=a:".toList) = .segments [⟨"*", "=a:"⟩] := by decide
  have hright : read (String.ofList "b".toList) = .segments [⟨"*", "b"⟩] := by decide
  refine ⟨by decide, fun h => ?_, by decide, fun h => ?_⟩
  · rw [hfirst, composedAt, if_pos (.inl Text.blanks_nil)] at h
    cases congrArg (fun p => (p.run.run ()).1) h
  · rw [hcolon, composedAt, if_neg (by decide), hleft, hright] at h
    cases congrArg (fun p => (p.run.run ()).1) h

end FieldRules.Directive
