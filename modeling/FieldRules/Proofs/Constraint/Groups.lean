import FieldRules.Proofs.Constraint.Reading
import FieldRules.Proofs.Constraint.Tag

/-!
# The groups of a tag

A validation tag is a list of groups with semicolons between them, and each group is an expression,
perhaps with a scope in front of it.  Reading the tag reads the expressions one by one, each as far
as it would be read alone.  A semicolon inside an argument does not end a group, for it does not end
the expression; and no expression is taken for a scope, since what follows the name that it begins
with is never a colon.

## Main definitions

* `ScopeMark`, `Group` — a scope and a group as they are written.
* `writeTag` — the tag of some groups.

## Main statements

* `scopeMark?_eq_none_of_denotes` — no expression is taken for a scope.
* `readGroups_of_means`, `exists_groups_of_readGroups` — what is read of written groups, and that
  nothing else is read.
* `Vocabulary.parseTag_eq_ok_iff` — a tag is read as its groups.
-/

namespace FieldRules.Constraint

open Text (Blanks trimStart)

variable {v : Vocabulary} {c : Constraint} {s w rest : List Char}

/-! ## Written groups -/

/-- A scope in front of a group as it is written, with blanks around its name. -/
structure ScopeMark where
  before : List Char
  name : String
  behind : List Char
  blanks_before : Blanks before
  isScopeName : IsScopeName name
  blanks_behind : Blanks behind

/-- A group as it is written. -/
structure Group where
  mark : Option ScopeMark
  expression : String

/-- The text of a scope in front of a group. -/
def ScopeMark.text (m : ScopeMark) : List Char := m.before ++ (m.name.toList ++ (m.behind ++ [':']))

namespace Group

/-- The scope of a group: the one in front of it, or every scope. -/
def scope (g : Group) : String := (g.mark.map ScopeMark.name).getD wildcard

/-- The text of a group. -/
def text (g : Group) : List Char := (g.mark.map ScopeMark.text).getD [] ++ g.expression.toList

/-- What a group says, in the sense of reading its expression alone. -/
def Means (v : Vocabulary) (g : Group) (said : String × Constraint) : Prop :=
  said.1 = g.scope ∧ v.parse g.expression = .ok said.2

end Group

/-- The text of groups, with semicolons between them. -/
def groupsText (written : List Group) : List Char := [';'].intercalate (written.map Group.text)

/-- The tag of groups. -/
def writeTag (written : List Group) : String := String.ofList (groupsText written)

/-! ## Scopes and expressions -/

/-- What may follow the name that an expression begins with: behind blanks, nothing or a sign that
is no colon. -/
def FollowsName (rest : List Char) : Prop :=
  ∀ d more, trimStart rest = d :: more → d = '(' ∨ d = ',' ∨ d = ';'

theorem FollowsName.of_blanks_append (hw : Blanks w) (h : FollowsName rest) :
    FollowsName (w ++ rest) := by
  intro d more hd
  rw [Text.trimStart_blanks_append hw] at hd
  exact h d more hd

theorem followsName_cons {d : Char} (hd : d = '(' ∨ d = ',' ∨ d = ';') (more : List Char) :
    FollowsName (d :: more) := by
  intro d' more' h
  have hblank : Text.isBlank d = false := by rcases hd with rfl | rfl | rfl <;> decide
  rw [Text.trimStart_cons hblank] at h
  cases h
  exact hd

theorem followsName_of_end (h : rest = [] ∨ ∃ more, rest = ';' :: more) : FollowsName rest := by
  obtain rfl | ⟨more, rfl⟩ := h
  · intro d more hd
    cases hd
  · exact followsName_cons (.inr (.inr rfl)) more

/-- Where a name has been read as far as a scope goes, no colon follows: either the name goes on
with a sign that scopes do not have, or it ends. -/
theorem ne_colon_of_followsName {n : List Char} (hn : ∀ d ∈ n, isNameChar d = true)
    (hrest : FollowsName rest) :
    ∀ d more, trimStart ((n ++ rest).dropWhile isScopeChar) = d :: more → d ≠ ':' := by
  induction n with
  | nil =>
    have hdrop : rest.dropWhile isScopeChar = rest := by
      cases rest with
      | nil => rfl
      | cons e more =>
        refine List.dropWhile_cons_of_neg fun hscope => ?_
        have he := hrest e more (Text.trimStart_cons (isBlank_of_isScopeChar hscope) more)
        rcases he with rfl | rfl | rfl <;> cases hscope
    intro d more hd
    rw [List.nil_append, hdrop] at hd
    rcases hrest d more hd with rfl | rfl | rfl <;> decide
  | cons e n ih =>
    have he := hn e List.mem_cons_self
    cases hscope : isScopeChar e with
    | true =>
      rw [List.cons_append, List.dropWhile_cons_of_pos hscope]
      exact ih fun d hd => hn d (List.mem_cons_of_mem _ hd)
    | false =>
      rw [List.cons_append, List.dropWhile_cons_of_neg (by simp [hscope]),
        Text.trimStart_cons (isBlank_of_isNameChar he)]
      rintro d more ⟨⟩ rfl
      cases he

/-- A term begins with a name, and what follows the name is no colon. -/
theorem Term.Reads.exists_name {t : Term} (h : t.Reads s) (hrest : FollowsName rest) :
    ∃ n more, s ++ rest = n ++ more ∧ IsName n ∧ FollowsName more := by
  have hcall : ∀ n b tail : List Char, IsName n → Blanks b →
      ∃ n' more, n ++ (b ++ '(' :: tail) ++ rest = n' ++ more ∧ IsName n' ∧ FollowsName more := by
    intro n b tail hn hb
    refine ⟨n, b ++ '(' :: (tail ++ rest), by simp, hn, ?_⟩
    exact (followsName_cons (.inl rfl) _).of_blanks_append hb
  cases h with
  | bare hn => exact ⟨s, rest, rfl, hn, hrest⟩
  | call hn _ hb _ => exact hcall _ _ _ hn hb
  | joined hb _ => exact hcall _ _ _ (isName_connective _) hb

/-- A list begins with a name behind blanks, and what follows the name is no colon. -/
theorem Listing.exists_name {terms : List Term} (h : Listing s terms) (hrest : FollowsName rest) :
    ∃ b n more, s ++ rest = b ++ (n ++ more) ∧ Blanks b ∧ IsName n ∧ FollowsName more := by
  cases h with
  | @last b s' b' _ hb hterm hb' =>
    obtain ⟨n, more, hsplit, hn, hmore⟩ := hterm.exists_name (hrest.of_blanks_append hb')
    exact ⟨b, n, more, by rw [← hsplit]; simp, hb, hn, hmore⟩
  | @more b s' b' tail _ _ hb hterm hb' _ =>
    have hcomma : FollowsName (b' ++ ',' :: (tail ++ rest)) :=
      (followsName_cons (.inr (.inl rfl)) _).of_blanks_append hb'
    obtain ⟨n, more, hsplit, hn, hmore⟩ := hterm.exists_name hcomma
    exact ⟨b, n, more, by rw [← hsplit]; simp, hb, hn, hmore⟩

/-- **No expression is taken for a scope**, whatever group may follow it. -/
theorem scopeMark?_eq_none_of_denotes (h : Denotes v w c)
    (hend : rest = [] ∨ ∃ more, rest = ';' :: more) : scopeMark? (w ++ rest) = none := by
  obtain ⟨terms, -, hlist, -, -⟩ := h
  obtain ⟨b, n, more, hsplit, hb, hn, hmore⟩ := hlist.exists_name (followsName_of_end hend)
  have htrim : trimStart (w ++ rest) = n ++ more := by
    rw [hsplit, Text.trimStart_blanks_append hb, hn.trimStart_append isBlank_of_isNameChar]
  unfold scopeMark?
  simp only [htrim]
  split
  · next rest' hcolon => exact absurd rfl (ne_colon_of_followsName hn.all hmore ':' rest' hcolon)
  · rfl

/-- A scope that is read is written in front of what is left. -/
theorem exists_scopeMark_of_eq_some {scope : String} (h : scopeMark? s = some (scope, rest)) :
    ∃ m : ScopeMark, m.name = scope ∧ s = m.text ++ rest := by
  have hname := isScopeName_of_scopeMark? h
  obtain ⟨b, hb, hs⟩ := Text.exists_blanks_append_trimStart s
  have hword : trimStart s =
      (trimStart s).takeWhile isScopeChar ++ (trimStart s).dropWhile isScopeChar :=
    List.takeWhile_append_dropWhile.symm
  obtain ⟨b', hb', hgap⟩ :=
    Text.exists_blanks_append_trimStart ((trimStart s).dropWhile isScopeChar)
  unfold scopeMark? at h
  simp only at h
  split at h
  · next rest' hcolon =>
    split at h
    · cases h
    · cases h
      refine ⟨⟨b, _, b', hb, hname, hb'⟩, rfl, ?_⟩
      rw [hcolon] at hgap
      rw [ScopeMark.text, String.toList_ofList]
      simpa [← hgap, ← hword] using hs
  · cases h

/-! ## Reading groups -/

/-- An expression is accepted alone when nothing is left of it. -/
theorem parse_eq_ok_iff_readExpression {source : String} :
    v.parse source = .ok c ↔ readExpression v source.toList = .ok (c, []) := by
  rw [Vocabulary.parse]
  cases readExpression v source.toList with
  | error f => simp
  | ok r =>
    obtain ⟨d, rest⟩ := r
    cases rest <;> simp

theorem Group.Means.denotes {g : Group} {said : String × Constraint} (h : g.Means v said) :
    Denotes v g.expression.toList said.2 := by
  simpa [readExpression_eq_ok_iff] using parse_eq_ok_iff_readExpression.1 h.2

/-- A group that says something is read, and what follows it is left. -/
theorem Group.Means.read {g : Group} {said : String × Constraint} (h : g.Means v said)
    (hend : rest = [] ∨ ∃ more, rest = ';' :: more) :
    ∃ body, (scopeMark? (g.text ++ rest)).getD (wildcard, g.text ++ rest) = (said.1, body) ∧
      readExpression v body = .ok (said.2, rest) := by
  have hdenotes := h.denotes
  refine ⟨g.expression.toList ++ rest, ?_, readExpression_eq_ok_iff.2 ⟨_, rfl, hdenotes, hend⟩⟩
  rw [h.1, Group.scope, Group.text]
  cases g.mark with
  | none =>
    have hnone := scopeMark?_eq_none_of_denotes hdenotes hend
    simp [hnone]
  | some m =>
    have hsome := scopeMark?_append m.blanks_before m.isScopeName m.blanks_behind
      (g.expression.toList ++ rest)
    simp [ScopeMark.text, hsome]

/-- What is read of a text, up to its end or a semicolon, is a group that says it. -/
theorem exists_group_of_readExpression {scope : String} {body : List Char}
    (hscope : (scopeMark? s).getD (wildcard, s) = (scope, body))
    (h : readExpression v body = .ok (c, rest)) :
    ∃ g : Group, s = g.text ++ rest ∧ g.Means v (scope, c) := by
  obtain ⟨w, rfl, hdenotes, -⟩ := readExpression_eq_ok_iff.1 h
  have hparse : v.parse (String.ofList w) = .ok c := by
    rw [parse_eq_ok_iff_readExpression, String.toList_ofList, readExpression_eq_ok_iff]
    exact ⟨w, (List.append_nil w).symm, hdenotes, .inl rfl⟩
  cases hmark : scopeMark? s with
  | none =>
    rw [hmark] at hscope
    cases hscope
    exact ⟨⟨none, String.ofList w⟩, by simp [Group.text], rfl, hparse⟩
  | some found =>
    rw [hmark] at hscope
    obtain rfl : found = (scope, w ++ rest) := hscope
    obtain ⟨m, rfl, hs⟩ := exists_scopeMark_of_eq_some hmark
    exact ⟨⟨some m, String.ofList w⟩, by simp [Group.text, hs], rfl, hparse⟩

theorem groupsText_singleton (g : Group) : groupsText [g] = g.text := by
  simp [groupsText]

theorem groupsText_cons_cons (g g' : Group) (more : List Group) :
    groupsText (g :: g' :: more) = g.text ++ ';' :: groupsText (g' :: more) := by
  simp [groupsText]

/-- There are at most as many groups as semicolons and one more. -/
theorem length_le_length_groupsText (written : List Group) :
    written.length ≤ (groupsText written).length + 1 := by
  induction written with
  | nil => simp
  | cons g more ih =>
    cases more with
    | nil => simp
    | cons g' more =>
      rw [groupsText_cons_cons]
      simp only [List.length_cons, List.length_append] at ih ⊢
      omega

/-- Written groups are read as what they say, when the bound is large enough. -/
theorem readGroups_of_means {written : List Group} {groups : List (String × Constraint)}
    (h : List.Forall₂ (Group.Means v) written groups) (hne : written ≠ []) {fuel : Nat}
    (hfuel : written.length ≤ fuel) : readGroups v fuel (groupsText written) = .ok groups := by
  induction h generalizing fuel with
  | nil => exact absurd rfl hne
  | @cons g said written groups hfirst hmore ih =>
    obtain ⟨fuel, rfl⟩ : ∃ n, fuel = n + 1 := ⟨fuel - 1, by rw [List.length_cons] at hfuel; omega⟩
    cases hmore with
    | nil =>
      obtain ⟨body, hscope, hread⟩ := hfirst.read (.inl (Eq.refl []))
      rw [List.append_nil] at hscope
      rw [groupsText_singleton, readGroups, hscope]
      simp only [hread, bind, Except.bind]
    | @cons g' said' written groups hsecond hmore =>
      obtain ⟨body, hscope, hread⟩ := hfirst.read (.inr ⟨groupsText (g' :: written), rfl⟩)
      have hothers := ih (List.cons_ne_nil _ _) (Nat.le_of_succ_le_succ hfuel)
      rw [groupsText_cons_cons, readGroups, hscope]
      simp only [hread, hothers, bind, Except.bind]

/-- Whatever the bound, what is read are groups that say it. -/
theorem exists_groups_of_readGroups {fuel : Nat} {groups : List (String × Constraint)}
    (h : readGroups v fuel s = .ok groups) :
    ∃ written, written ≠ [] ∧ s = groupsText written ∧
      List.Forall₂ (Group.Means v) written groups := by
  induction fuel generalizing s groups with
  | zero => cases h
  | succ fuel ih =>
    obtain ⟨scope, body, hscope⟩ :
        ∃ scope body, (scopeMark? s).getD (wildcard, s) = (scope, body) := ⟨_, _, rfl⟩
    rw [readGroups, hscope] at h
    obtain ⟨⟨c, rest⟩, hread, h⟩ := bind_eq_ok_iff.1 h
    obtain ⟨g, hs, hg⟩ := exists_group_of_readExpression hscope hread
    simp only at h
    split at h
    · cases h
      exact ⟨[g], List.cons_ne_nil _ _, by simpa [groupsText_singleton] using hs,
        .cons hg .nil⟩
    · next rest =>
      obtain ⟨others, hmore, h⟩ := bind_eq_ok_iff.1 h
      cases h
      obtain ⟨written, hne, rfl, hmeans⟩ := ih hmore
      obtain ⟨g', written, rfl⟩ := List.exists_cons_of_ne_nil hne
      exact ⟨g :: g' :: written, List.cons_ne_nil _ _, by rw [hs, groupsText_cons_cons],
        .cons hg hmeans⟩
    · cases h

/-- A group that says something is not blank. -/
theorem Group.Means.not_blanks {g : Group} {said : String × Constraint} (h : g.Means v said) :
    ¬Blanks g.text := by
  intro hblanks
  obtain ⟨terms, -, hlist, -, -⟩ := h.denotes
  obtain ⟨d, more, hd, -⟩ := (hlist.trimStart_append []).2
  have hexpression : Blanks g.expression.toList := fun d hd => hblanks d (by simp [Group.text, hd])
  rw [Text.trimStart_blanks hexpression] at hd
  cases hd

theorem not_blanks_groupsText {written : List Group} {groups : List (String × Constraint)}
    (h : List.Forall₂ (Group.Means v) written groups) (hne : written ≠ []) :
    ¬Blanks (groupsText written) := by
  intro hblanks
  cases h with
  | nil => exact hne rfl
  | @cons g said written groups hfirst hmore =>
    refine hfirst.not_blanks fun d hd => hblanks d ?_
    cases written with
    | nil => rwa [groupsText_singleton]
    | cons g' more =>
      rw [groupsText_cons_cons]
      exact List.mem_append_left _ hd

end FieldRules.Constraint

namespace FieldRules.Vocabulary

open Constraint

/-- **A tag is read as its groups.**  A blank tag has none.  Any other tag is accepted exactly when
it is made of groups with semicolons between them, each an expression that is accepted alone,
perhaps with a scope and blanks around it in front.  Then what is read are the scopes of the groups,
or the scope of what holds in every scope, each with the constraint of the expression, in order. -/
theorem parseTag_eq_ok_iff (v : Vocabulary) (tag : String) (groups : List (String × Constraint)) :
    v.parseTag tag = .ok groups ↔
      (Text.Blanks tag.toList ∧ groups = []) ∨
        ∃ written, written ≠ [] ∧ tag = writeTag written ∧
          List.Forall₂ (Group.Means v) written groups := by
  constructor
  · intro h
    rw [parseTag] at h
    split at h
    · next hempty =>
      cases h
      exact .inl ⟨Text.trimStart_eq_nil_iff.1 (List.isEmpty_iff.1 hempty), rfl⟩
    · split at h
      · cases h
      · next hread =>
        cases h
        obtain ⟨written, hne, htext, hmeans⟩ := exists_groups_of_readGroups hread
        exact .inr ⟨written, hne, by rw [writeTag, ← htext, String.ofList_toList], hmeans⟩
  · rintro (⟨hblanks, rfl⟩ | ⟨written, hne, rfl, hmeans⟩)
    · rw [parseTag]
      simp [Text.trimStart_blanks hblanks]
    · have hempty : ¬(Text.trimStart (groupsText written)).isEmpty = true := fun hempty =>
        not_blanks_groupsText hmeans hne (Text.trimStart_eq_nil_iff.1 (List.isEmpty_iff.1 hempty))
      simp only [parseTag, writeTag, String.toList_ofList]
      rw [if_neg hempty, readGroups_of_means hmeans hne (length_le_length_groupsText written)]

end FieldRules.Vocabulary
