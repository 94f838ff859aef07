import FieldRules.Proofs.Access.Mask
import FieldRules.Proofs.Access.Registration

/-!
# What an access tag grants

An access tag is a list of segments, the last of which may mark the field as provided; the others,
put together, are pairs of letters, one pair for each position.  What the tag grants is read off
these pairs here, without a mask, and the mask that reading the tag packs its bits into grants
exactly that to the registered names.

## Main definitions

* `AccessTag.segments`, `AccessTag.isMarked`, `AccessTag.grants` — the parts of a tag.
* `AccessTag.pairs`, `AccessTag.kindsOf` — the pairs of letters, and what a pair says.
* `AccessTag.WellFormed` — the tags that can be read.

## Main statements

* `Principals.readPairs_of_isPair`, `Principals.readPairs_of_not_isPair` — reading pairs onto a
  mask.
* `Principals.parseTag_grants` — which tags are read, and what their masks allow.
-/

namespace FieldRules

namespace AccessTag

/-- What stands between the commas of a tag, without the blanks around it. -/
def segments (tag : String) : List (List Char) := (tag.toList.splitOn ',').map Text.trim

/-- Whether the last segment marks the field as provided. -/
def isMarked (tag : String) : Bool :=
  (segments tag).getLast?.any fun s => s == "p".toList || s == "provided".toList

/-- The segments of a tag that spell out pairs. -/
def grants (tag : String) : List (List Char) :=
  if isMarked tag then (segments tag).dropLast else segments tag

/-- Letters two by two. -/
def pairs : List Char → List (Char × Char)
  | r :: w :: rest => (r, w) :: pairs rest
  | _ => []

/-- A pair of letters that says something: one for reading and one for writing. -/
def IsPair (pair : Char × Char) : Prop :=
  (pair.1 = 'r' ∨ pair.1 = '-') ∧ (pair.2 = 'w' ∨ pair.2 = 'c' ∨ pair.2 = 'u' ∨ pair.2 = '-')

/-- What a pair says. -/
def kindsOf (pair : Char × Char) : AccessKind :=
  ⟨pair.1 == 'r', pair.2 == 'w' || pair.2 == 'c', pair.2 == 'w' || pair.2 == 'u'⟩

/-- What the pairs say for a position; nothing where there is no pair. -/
def kindsAt (ps : List (Char × Char)) (position : Nat) : AccessKind :=
  (ps[position]?.map kindsOf).getD .none

/-- The tags that can be read: no segment splits a pair, there are not too many letters, and each
pair says something. -/
structure WellFormed (tag : String) : Prop where
  whole : ∀ s ∈ grants tag, s.length % 2 = 0
  length_le : (grants tag).flatten.length ≤ maxTagLength
  isPair : ∀ pair ∈ pairs (grants tag).flatten, IsPair pair

instance : DecidablePred IsPair := fun pair =>
  inferInstanceAs (Decidable ((pair.1 = 'r' ∨ pair.1 = '-') ∧
    (pair.2 = 'w' ∨ pair.2 = 'c' ∨ pair.2 = 'u' ∨ pair.2 = '-')))

theorem wellFormed_iff {tag : String} :
    WellFormed tag ↔ (∀ s ∈ grants tag, s.length % 2 = 0) ∧
      (grants tag).flatten.length ≤ maxTagLength ∧
      ∀ pair ∈ pairs (grants tag).flatten, IsPair pair :=
  ⟨fun h => ⟨h.whole, h.length_le, h.isPair⟩, fun h => ⟨h.1, h.2.1, h.2.2⟩⟩

instance : DecidablePred WellFormed := fun _ => decidable_of_iff _ wellFormed_iff.symm

@[simp] theorem kindsAt_nil (position : Nat) : kindsAt [] position = .none := rfl

@[simp] theorem kindsAt_cons_zero (pair : Char × Char) (ps : List (Char × Char)) :
    kindsAt (pair :: ps) 0 = kindsOf pair := rfl

@[simp] theorem kindsAt_cons_succ (pair : Char × Char) (ps : List (Char × Char)) (position : Nat) :
    kindsAt (pair :: ps) (position + 1) = kindsAt ps position := rfl

end AccessTag

namespace Principals

open AccessTag

variable {p : Principals} {tag : String}

/-! ## Reading pairs -/

/-- The two letters of a pair are read as what the pair says. -/
theorem readChar?_of_isPair {r w : Char} (h : IsPair (r, w)) :
    ∃ read write, readChar? r = some read ∧ writeChar? w = some write ∧
      read.union write = kindsOf (r, w) := by
  obtain ⟨rfl | rfl, rfl | rfl | rfl | rfl⟩ := h <;> exact ⟨_, _, rfl, rfl, rfl⟩

/-- Of two letters that are no pair one is refused. -/
theorem readChar?_of_not_isPair {r w : Char} (h : ¬IsPair (r, w)) :
    readChar? r = none ∨ writeChar? w = none := by
  by_contra hsome
  refine h ⟨?_, ?_⟩
  · have hr : readChar? r ≠ none := fun hnone => hsome (.inl hnone)
    unfold readChar? at hr
    split at hr <;> simp_all
  · have hw : writeChar? w ≠ none := fun hnone => hsome (.inr hnone)
    unfold writeChar? at hw
    split at hw <;> simp_all

/-- A pair is granted to its position when the position is one of a registered name. -/
theorem kinds_grant_registered (hroom : p.names.length ≤ maxPrincipals) (first : Nat)
    (mask : AccessMask) (k : AccessKind) (position : Nat) :
    (if first < p.names.length then mask.grant first k else mask).kinds position =
      (mask.kinds position).union
        (if position = first ∧ first < p.names.length then k else .none) := by
  by_cases hfirst : first < p.names.length
  · have hbound : first < maxPrincipals := Nat.lt_of_lt_of_le hfirst hroom
    rw [if_pos hfirst, AccessMask.kinds_grant]
    by_cases hsame : position = first <;> simp [hsame, hfirst, hbound]
  · simp [hfirst]

/-- The pairs from a position on are its own pair and those from the next one on. -/
theorem kindsAt_cons_from (pair : Char × Char) (ps : List (Char × Char)) (first position : Nat) :
    (if first ≤ position ∧ position < p.names.length then kindsAt (pair :: ps) (position - first)
      else .none) =
      (if position = first ∧ first < p.names.length then kindsOf pair else .none).union
        (if first + 1 ≤ position ∧ position < p.names.length then
          kindsAt ps (position - (first + 1)) else .none) := by
  rcases Nat.lt_trichotomy position first with hlt | rfl | hgt
  · have hbefore : ¬first ≤ position ∧ ¬first + 1 ≤ position ∧ position ≠ first := by omega
    simp [hbefore]
  · have hnext : ¬position + 1 ≤ position := by omega
    simp [hnext]
  · have hafter : first ≤ position ∧ first + 1 ≤ position ∧ position ≠ first := by omega
    have hsub : position - first = position - (first + 1) + 1 := by omega
    simp [hafter, hsub]

/-- **Reading pairs onto a mask** adds to each position what its pair says, as long as the position
is one of a registered name. -/
theorem readPairs_of_isPair (hroom : p.names.length ≤ maxPrincipals) (tag : String)
    {letters : List Char} (h : ∀ pair ∈ pairs letters, IsPair pair) (first : Nat)
    (mask : AccessMask) :
    ∃ result, readPairs p tag first mask letters = .ok result ∧
      ∀ position, result.kinds position = (mask.kinds position).union
        (if first ≤ position ∧ position < p.names.length then
          kindsAt (pairs letters) (position - first) else .none) := by
  induction letters using pairs.induct generalizing first mask with
  | case1 r w rest ih =>
    obtain ⟨read, write, hread, hwrite, hunion⟩ := readChar?_of_isPair (h _ List.mem_cons_self)
    have hrest : ∀ pair ∈ pairs rest, IsPair pair :=
      fun pair hpair => h pair (List.mem_cons_of_mem _ hpair)
    obtain ⟨result, hresult, hkinds⟩ := ih hrest (first + 1)
      (if first < p.names.length then mask.grant first (read.union write) else mask)
    refine ⟨result, by simp only [readPairs, hread, hwrite, hresult], fun position => ?_⟩
    rw [hkinds, kinds_grant_registered hroom, AccessKind.union_assoc, hunion, pairs,
      kindsAt_cons_from]
  | case2 letters hshort =>
    have hnil : pairs letters = [] ∧ readPairs p tag first mask letters = .ok mask := by
      rcases letters with _ | ⟨c, _ | ⟨d, rest⟩⟩
      · exact ⟨rfl, rfl⟩
      · exact ⟨rfl, rfl⟩
      · exact (hshort c d rest rfl).elim
    exact ⟨mask, hnil.2, fun position => by simp [hnil.1]⟩

/-- Letters that are no pairs are refused. -/
theorem readPairs_of_not_isPair (p : Principals) (tag : String) {letters : List Char}
    (h : ¬∀ pair ∈ pairs letters, IsPair pair) (first : Nat) (mask : AccessMask) :
    ∃ e, readPairs p tag first mask letters = .error e := by
  induction letters using pairs.induct generalizing first mask with
  | case1 r w rest ih =>
    rw [readPairs]
    split
    · next read write hread hwrite =>
      refine ih (fun hrest => h fun pair hpair => ?_) (first + 1) _
      rw [pairs] at hpair
      rcases List.mem_cons.1 hpair with rfl | hpair
      · by_contra hnot
        rcases readChar?_of_not_isPair hnot with hnone | hnone <;> simp_all
      · exact hrest pair hpair
    · exact ⟨_, rfl⟩
    · exact ⟨_, rfl⟩
  | case2 letters hshort =>
    refine absurd (fun pair hpair => ?_) h
    rcases letters with _ | ⟨c, _ | ⟨d, rest⟩⟩
    · cases hpair
    · cases hpair
    · exact (hshort c d rest rfl).elim

/-! ## Reading tags -/

theorem splitAt_eq_splitOn (separator : Char) (s : List Char) :
    splitAt separator s = s.splitOn separator := by
  induction s with
  | nil => rw [splitAt, List.splitOn_nil]
  | cons c rest ih =>
    rw [List.splitOn_eq_splitOnP] at ih ⊢
    rw [splitAt, ih, List.splitOnP_cons_eq_if_modifyHead]
    by_cases hc : c = separator
    · simp [hc]
    · rw [if_neg hc, if_neg (by simpa using hc)]
      cases hparts : rest.splitOnP (· == separator) with
      | nil => exact absurd hparts (List.splitOnP_ne_nil _ _)
      | cons part parts => rfl

/-- How a tag is read, by its parts. -/
theorem parseTag_eq (p : Principals) (tag : String) :
    p.parseTag tag =
      match (grants tag).find? fun s => s.length % 2 != 0 with
      | some s =>
        .error (tagError tag (": segment \"" ++ String.ofList s ++ "\" must hold whole pairs"))
      | none =>
        if maxTagLength < (grants tag).flatten.length then
          .error (tagError tag (" must be at most " ++ toString maxTagLength ++ " characters"))
        else
          (readPairs p tag 0 .empty (grants tag).flatten).map fun mask => ⟨mask, isMarked tag⟩ := by
  have hmark : ((segments tag).getLast?.map isProvidedMark).getD false = isMarked tag := by
    cases h : (segments tag).getLast? <;> simp [isMarked, h, isProvidedMark]
  rw [parseTag]
  simp only [splitAt_eq_splitOn]
  rw [show (tag.toList.splitOn ',').map Text.trim = segments tag from rfl, hmark]
  rfl

/-- A well-formed tag is read, and its mask holds what its pairs say for the positions of registered
names, and nothing else. -/
theorem parseTag_of_wellFormed (hroom : p.names.length ≤ maxPrincipals)
    (h : AccessTag.WellFormed tag) :
    ∃ mask, p.parseTag tag = .ok ⟨mask, isMarked tag⟩ ∧
      ∀ position, mask.kinds position =
        if position < p.names.length then kindsAt (pairs (grants tag).flatten) position
        else .none := by
  obtain ⟨mask, hmask, hkinds⟩ := readPairs_of_isPair hroom tag h.isPair 0 .empty
  have hwhole : ((grants tag).find? fun s => s.length % 2 != 0) = none := by
    simpa [List.find?_eq_none] using h.whole
  refine ⟨mask, ?_, fun position => by simpa using hkinds position⟩
  rw [parseTag_eq, hwhole]
  simp only [if_neg (Nat.not_lt.2 h.length_le), hmask]
  rfl

/-- Every other tag is refused. -/
theorem parseTag_of_not_wellFormed (p : Principals) (h : ¬AccessTag.WellFormed tag) :
    ∃ e, p.parseTag tag = .error e := by
  rw [parseTag_eq]
  split
  · exact ⟨_, rfl⟩
  next hwhole =>
  split
  · exact ⟨_, rfl⟩
  next hlength =>
  have hpairs : ¬∀ pair ∈ pairs (grants tag).flatten, IsPair pair := fun hpairs =>
    h ⟨by simpa [List.find?_eq_none] using hwhole, Nat.not_lt.1 hlength, hpairs⟩
  obtain ⟨e, he⟩ := readPairs_of_not_isPair p tag hpairs 0 .empty
  rw [he]
  exact ⟨e, rfl⟩

/-! ## What is allowed -/

/-- A name is allowed what the mask holds for the position at which it stands. -/
theorem WellFormed.allows_named_iff (hp : p.WellFormed) {mask : AccessMask} {name : String}
    {kind : AccessKind} :
    p.allows mask (.named name) kind = true ↔
      ∃ position, p.names[position]? = some name ∧ (mask.kinds position).contains kind = true := by
  rw [allows]
  cases h : p.position? name with
  | none => simp [← hp.position?_eq_some_iff, h]
  | some position => simp [← hp.position?_eq_some_iff, h]

/-- **What an access tag grants**: it is read exactly when it is well-formed.  Then the field is
provided exactly when the tag is marked so, and a name is allowed exactly the kinds that the pair at
its position says; pairs beyond the registered names grant nothing. -/
theorem parseTag_grants (hp : p.WellFormed) (tag : String) :
    ((∃ spec, p.parseTag tag = .ok spec) ↔ AccessTag.WellFormed tag) ∧
      ∀ spec, p.parseTag tag = .ok spec →
        (spec.isProvided = true ↔ isMarked tag = true) ∧
          (∀ name kind, p.allows spec.mask (.named name) kind = true ↔
            ∃ position, p.names[position]? = some name ∧
              (kindsAt (pairs (grants tag).flatten) position).contains kind = true) ∧
          ∀ position, p.names.length ≤ position → spec.mask.kinds position = .none := by
  have hwellFormed : ∀ spec, p.parseTag tag = .ok spec → AccessTag.WellFormed tag := by
    intro spec hspec
    by_contra hnot
    obtain ⟨e, he⟩ := parseTag_of_not_wellFormed p hnot
    rw [he] at hspec
    cases hspec
  refine ⟨⟨fun ⟨spec, hspec⟩ => hwellFormed spec hspec, fun h => ?_⟩, fun spec hspec => ?_⟩
  · obtain ⟨mask, hmask, -⟩ := parseTag_of_wellFormed hp.length_le h
    exact ⟨_, hmask⟩
  · obtain ⟨mask, hmask, hkinds⟩ := parseTag_of_wellFormed hp.length_le (hwellFormed spec hspec)
    obtain rfl : spec = ⟨mask, isMarked tag⟩ := Except.ok.inj (hspec.symm.trans hmask)
    refine ⟨Iff.rfl, fun name kind => ?_, fun position hposition => ?_⟩
    · rw [hp.allows_named_iff]
      refine exists_congr fun position => and_congr_right fun hname => ?_
      have hregistered : position < p.names.length := (List.getElem?_eq_some_iff.1 hname).1
      rw [hkinds, if_pos hregistered]
    · rw [hkinds, if_neg (Nat.not_lt.2 hposition)]

/-- A tag for the three names of a newsroom, with a pair too many and blanks around its segments. -/
theorem parseTag_grants_newsroom :
    (afterAll newsroom).WellFormed ∧
      ∃ spec, (afterAll newsroom).parseTag " r-, rw--ru ,p" = .ok spec ∧ spec.isProvided = true ∧
        (afterAll newsroom).allows spec.mask (.named "author") .all = true ∧
        (afterAll newsroom).allows spec.mask (.named "editor") .creating = false ∧
        spec.mask.kinds 3 = .none := by
  have hp := wellFormed_afterAll newsroom
  obtain ⟨hok, hgrants⟩ := parseTag_grants hp " r-, rw--ru ,p"
  obtain ⟨spec, hspec⟩ := hok.2 (by decide)
  obtain ⟨hprovided, hallows, hbeyond⟩ := hgrants spec hspec
  refine ⟨hp, spec, hspec, hprovided.2 (by decide),
    (hallows "author" .all).2 ⟨1, by decide, by decide⟩, ?_, hbeyond 3 (by decide)⟩
  rw [Bool.eq_false_iff, Ne, hallows]
  rintro ⟨position, hname, hkind⟩
  obtain rfl := Option.some.inj ((hp.position?_eq_some_iff.2 hname).symm.trans
    (show (afterAll newsroom).position? "editor" = some 0 by decide))
  revert hkind
  decide

end Principals

end FieldRules
