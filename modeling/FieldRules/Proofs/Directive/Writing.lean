import FieldRules.Proofs.Directive.Splitting
import FieldRules.Proofs.Text.Word

/-!
# Writing directives

The written form of a list of segments, in which a backslash stands before every character that has
a meaning in directives.  It is read back as the same segments, so that every list of segments with
well-formed scopes is what some directive says.

## Main definitions

* `Directive.IsScopeName` — the names of scopes that can stand in front of a segment.
* `Directive.escape`, `Directive.writeSegments` — the written form of a configuration and of
  segments.

## Main statements

* `Directive.isScopeName_readSegment` — a segment is always for a well-formed scope.
* `Directive.read_writeSegments` — what is written is read back.
-/

namespace FieldRules.Directive

/-! ## Names of scopes -/

/-- A name that can stand in front of a segment. -/
abbrev IsScopeName (name : String) : Prop := Text.IsWord isScopeChar name.toList

theorem ne_of_isScopeChar {c d : Char} (hc : isScopeChar c = true) (hd : isScopeChar d = false) :
    c ≠ d := by
  rintro rfl
  rw [hc] at hd
  cases hd

theorem isBlank_of_isScopeChar {c : Char} (hc : isScopeChar c = true) : Text.isBlank c = false := by
  cases hblank : Text.isBlank c with
  | false => rfl
  | true =>
    have hother : c ≠ '_' ∧ c ≠ '-' ∧ c ≠ '*' := by
      refine ⟨?_, ?_, ?_⟩ <;> rintro rfl <;> revert hblank <;> decide
    simp [isScopeChar, Text.isAlphanumeric_of_isBlank hblank, hother] at hc

theorem isScopeName_wildcard : IsScopeName wildcard := by decide

/-- A segment is always for a well-formed scope. -/
theorem isScopeName_readSegment (s : List Char) : IsScopeName (readSegment s).scope := by
  have hscope : (readSegment s).scope = String.ofList (splitScope s).1 := rfl
  rw [hscope, splitScope]
  split
  · next before after _ =>
    by_cases hname : (!(Text.trim before).isEmpty && (Text.trim before).all isScopeChar) = true
    · rw [if_pos hname, IsScopeName, String.toList_ofList]
      exact Text.IsWord.iff_all.2 hname
    · rw [if_neg hname, String.ofList_toList]
      exact isScopeName_wildcard
  · rw [String.ofList_toList]
    exact isScopeName_wildcard

/-! ## Written forms -/

/-- A configuration with a backslash before every character that has a meaning in directives. -/
def escape : List Char → List Char
  | [] => []
  | c :: rest => if isEscapable c then '\\' :: c :: escape rest else c :: escape rest

/-- The written form of a configuration for a scope, or for every scope when none is named. -/
def writeSegment (scope? : Option String) (config : String) : List Char :=
  match scope? with
  | none => escape config.toList
  | some scope => scope.toList ++ ':' :: escape config.toList

/-- The written form of segments. -/
def writeSegments : List (Option String × String) → List Char
  | [] => []
  | [s] => writeSegment s.1 s.2
  | s :: t :: rest => writeSegment s.1 s.2 ++ ';' :: writeSegments (t :: rest)

/-- A character that has no meaning in directives is no backslash. -/
theorem ne_backslash_of_isEscapable {c : Char} (hc : isEscapable c = false) : c ≠ '\\' := by
  rintro rfl
  cases hc

theorem unescape_escape (s : List Char) : unescape (escape s) = s := by
  induction s with
  | nil => rfl
  | cons c rest ih =>
    rw [escape]
    by_cases hc : isEscapable c = true
    · rw [if_pos hc, unescape.eq_def]
      simp only [hc, if_true, ih]
    · rw [Bool.not_eq_true] at hc
      rw [hc, if_neg Bool.false_ne_true, unescape.eq_def]
      simp only [ne_backslash_of_isEscapable hc, if_false, ih]

/-! ## Splitting what is written -/

theorem splitUnescaped_escape_append {separator : Char} (hsep : isEscapable separator = true)
    (p s : List Char) :
    splitUnescaped separator (escape p ++ s) =
      (splitUnescaped separator s).modifyHead (escape p ++ ·) := by
  induction p with
  | nil => exact (modifyHead_nil_append _).symm
  | cons c p ih =>
    rw [escape]
    by_cases hc : isEscapable c = true
    · rw [if_pos hc, List.cons_append, List.cons_append, splitUnescaped_backslash, ih,
        List.modifyHead_modifyHead]
      rfl
    · have hne : c ≠ separator := fun h => hc (h ▸ hsep)
      rw [if_neg hc, List.cons_append,
        splitUnescaped_cons (ne_backslash_of_isEscapable (by simpa using hc)) hne, ih,
        List.modifyHead_modifyHead]
      rfl

theorem splitColon?_escape (s : List Char) : splitColon? (escape s) = none := by
  induction s with
  | nil => rfl
  | cons c rest ih =>
    rw [escape]
    by_cases hc : isEscapable c = true
    · rw [if_pos hc, splitColon?_backslash, ih, Option.map_none]
    · have hcolon : c ≠ ':' := by
        rintro rfl
        exact hc rfl
      rw [if_neg hc, splitColon?_cons (ne_backslash_of_isEscapable (by simpa using hc)) hcolon, ih,
        Option.map_none]

/-- The first colon behind the name of a scope ends it. -/
theorem splitColon?_name {name : List Char} (hname : ∀ c ∈ name, isScopeChar c = true)
    (rest : List Char) : splitColon? (name ++ ':' :: rest) = some (name, rest) := by
  have hplain : ∀ c ∈ name, c ≠ '\\' ∧ c ≠ ':' := fun c hc =>
    ⟨ne_of_isScopeChar (hname c hc) (by decide), ne_of_isScopeChar (hname c hc) (by decide)⟩
  rw [splitColon?_append hplain, splitColon?_colon, Option.map_some, List.append_nil]

theorem splitScope_append {name : String} (hname : IsScopeName name) (rest : List Char) :
    splitScope (name.toList ++ ':' :: rest) = (name.toList, rest) := by
  have htrim : Text.trim name.toList = name.toList :=
    Text.trim_of_forall fun c hc => isBlank_of_isScopeChar (hname.all c hc)
  rw [splitScope, splitColon?_name hname.all]
  simp only [htrim, Text.IsWord.iff_all.1 hname, if_true]

/-- A written segment is read back. -/
theorem readSegment_writeSegment {scope? : Option String} (h : ∀ name ∈ scope?, IsScopeName name)
    (config : String) :
    readSegment (writeSegment scope? config) = ⟨scope?.getD wildcard, config⟩ := by
  cases scope? with
  | none =>
    have hsplit : splitScope (escape config.toList) = (wildcard.toList, escape config.toList) := by
      rw [splitScope, splitColon?_escape]
    simp only [readSegment, writeSegment, hsplit, unescape_escape, String.ofList_toList,
      Option.getD_none]
  | some name =>
    simp only [readSegment, writeSegment, splitScope_append (h name rfl), unescape_escape,
      String.ofList_toList, Option.getD_some]

/-- No separator of segments is in a written segment. -/
theorem splitUnescaped_writeSegment {scope? : Option String}
    (h : ∀ name ∈ scope?, IsScopeName name) (config : String) (s : List Char) :
    splitUnescaped ';' (writeSegment scope? config ++ s) =
      (splitUnescaped ';' s).modifyHead (writeSegment scope? config ++ ·) := by
  cases scope? with
  | none => exact splitUnescaped_escape_append rfl config.toList s
  | some name =>
    have hname : ∀ c ∈ name.toList, c ≠ '\\' ∧ c ≠ ';' := by
      intro c hc
      have hchar := (h name rfl).all c hc
      exact ⟨ne_of_isScopeChar hchar (by decide), ne_of_isScopeChar hchar (by decide)⟩
    rw [writeSegment, List.append_assoc, List.cons_append, splitUnescaped_append hname,
      splitUnescaped_cons (by decide) (by decide), splitUnescaped_escape_append rfl,
      List.modifyHead_modifyHead, List.modifyHead_modifyHead]
    congr 1
    funext part
    simp

/-- Written segments are read back. -/
theorem readSegments_writeSegments {segments : List (Option String × String)}
    (hne : segments ≠ []) (h : ∀ s ∈ segments, ∀ name ∈ s.1, IsScopeName name) :
    readSegments (writeSegments segments) = segments.map fun s => ⟨s.1.getD wildcard, s.2⟩ := by
  induction segments with
  | nil => exact absurd rfl hne
  | cons s rest ih =>
    have hs := h s List.mem_cons_self
    have hread := readSegment_writeSegment hs s.2
    cases rest with
    | nil =>
      have hsplit := splitUnescaped_writeSegment hs s.2 []
      rw [List.append_nil] at hsplit
      simp [readSegments, writeSegments, hsplit, splitUnescaped, hread]
    | cons t rest =>
      have ih := ih (List.cons_ne_nil _ _) fun u hu => h u (List.mem_cons_of_mem _ hu)
      rw [readSegments] at ih ⊢
      rw [writeSegments, splitUnescaped_writeSegment hs, splitUnescaped_separator (by decide)]
      simp [hread, ih]

/-! ## No operators in what is written -/

/-- No operator is found, whatever came before, unless a backslash stands right before. -/
def OperatorFree (s : List Char) : Prop :=
  ∀ st : OperatorScan, st.isEscaped = false → splitOperator? st s = none

theorem operatorFree_nil : OperatorFree [] := fun _ _ => rfl

theorem OperatorFree.cons {c : Char} {s : List Char} (hs : OperatorFree s) (hc : c ≠ '\\')
    (hfallback : c ≠ '?') (hboth : c ≠ '&') : OperatorFree (c :: s) := by
  intro st hst
  have hnone : st.operator? c = none := by
    simp [OperatorScan.operator?, hfallback, hboth]
  have hnext : (st.next c).isEscaped = false := by
    rw [OperatorScan.next.eq_def]
    simp only [hst, Bool.false_eq_true, if_false, hc]
    split <;> (repeat' split) <;> simp_all
  simp only [splitOperator?, hnone, hs _ hnext, Option.map_none]

theorem OperatorFree.backslash {s : List Char} (hs : OperatorFree s) (c : Char) :
    OperatorFree ('\\' :: c :: s) := by
  intro st hst
  have hfirst : st.operator? '\\' = none := by simp [OperatorScan.operator?]
  have hescaped : (st.next '\\').isEscaped = true := by
    simp [OperatorScan.next, hst, show Text.isBlank '\\' = false from by decide]
  have hsecond : (st.next '\\').operator? c = none := by
    simp [OperatorScan.operator?, hescaped]
  have hafter : ((st.next '\\').next c).isEscaped = false := by
    rw [OperatorScan.next]
    simp [hescaped]
  simp only [splitOperator?, hfirst, hsecond, hs _ hafter, Option.map_none]

theorem operatorFree_escape_append (p : List Char) {s : List Char} (hs : OperatorFree s) :
    OperatorFree (escape p ++ s) := by
  induction p with
  | nil => exact hs
  | cons c p ih =>
    rw [escape]
    by_cases hc : isEscapable c = true
    · rw [if_pos hc]
      exact ih.backslash c
    · have hother : c ≠ '\\' ∧ c ≠ '?' ∧ c ≠ '&' := by
        refine ⟨?_, ?_, ?_⟩ <;> rintro rfl <;> exact hc rfl
      rw [if_neg hc]
      exact ih.cons hother.1 hother.2.1 hother.2.2

theorem operatorFree_writeSegment_append {scope? : Option String}
    (h : ∀ name ∈ scope?, IsScopeName name) (config : String) {s : List Char}
    (hs : OperatorFree s) : OperatorFree (writeSegment scope? config ++ s) := by
  have hconfig := operatorFree_escape_append config.toList hs
  cases scope? with
  | none => exact hconfig
  | some name =>
    have hname : ∀ p : List Char, (∀ c ∈ p, isScopeChar c = true) → ∀ {s}, OperatorFree s →
        OperatorFree (p ++ s) := by
      intro p hp s hs
      induction p with
      | nil => exact hs
      | cons c p ih =>
        have hc := hp c List.mem_cons_self
        exact (ih fun d hd => hp d (List.mem_cons_of_mem _ hd)).cons
          (ne_of_isScopeChar hc (by decide)) (ne_of_isScopeChar hc (by decide))
          (ne_of_isScopeChar hc (by decide))
    rw [writeSegment, List.append_assoc, List.cons_append]
    exact hname name.toList (h name rfl).all
      (hconfig.cons (by decide) (by decide) (by decide))

theorem operatorFree_writeSegments {segments : List (Option String × String)}
    (h : ∀ s ∈ segments, ∀ name ∈ s.1, IsScopeName name) :
    OperatorFree (writeSegments segments) := by
  induction segments with
  | nil => exact operatorFree_nil
  | cons s rest ih =>
    have hs := h s List.mem_cons_self
    cases rest with
    | nil =>
      have hfree := operatorFree_writeSegment_append hs s.2 operatorFree_nil
      rwa [List.append_nil] at hfree
    | cons t rest =>
      have hrest := ih fun u hu => h u (List.mem_cons_of_mem _ hu)
      exact operatorFree_writeSegment_append hs s.2
        (hrest.cons (by decide) (by decide) (by decide))

theorem OperatorFree.splitComposition? {s : List Char} (hs : OperatorFree s) :
    splitComposition? s = none := by
  cases s with
  | nil => rfl
  | cons c rest =>
    have hstart := hs .start rfl
    rw [splitOperator?] at hstart
    split at hstart
    · cases hstart
    · exact hstart

/-- **What is written is read back**: a directive of segments with escaped configurations has no
composition, and says each segment with its scope and its original configuration. -/
theorem read_writeSegments {segments : List (Option String × String)} (hne : segments ≠ [])
    (h : ∀ s ∈ segments, ∀ name ∈ s.1, IsScopeName name) :
    read (String.ofList (writeSegments segments)) =
      .segments (segments.map fun s => ⟨s.1.getD wildcard, s.2⟩) := by
  have hread : ∀ fuel, readWithin fuel (writeSegments segments) =
      .segments (readSegments (writeSegments segments)) := by
    intro fuel
    cases fuel with
    | zero => rfl
    | succ fuel => simp only [readWithin, (operatorFree_writeSegments h).splitComposition?]
  rw [read, String.toList_ofList, hread, readSegments_writeSegments hne h]

end FieldRules.Directive
