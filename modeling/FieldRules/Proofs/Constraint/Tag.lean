import FieldRules.Proofs.Except
import FieldRules.Proofs.Text.Word
import FieldRules.Constraint.Expression

/-!
# The scopes of a tag

Each group of a validation tag is for a scope that is named in front of it, or for every scope.  So
the scope of a group is always a well-formed name, and every well-formed name is the scope of a
group of some tag.

## Main statements

* `Vocabulary.isScopeName_of_parseTag` — the scopes of a tag's groups are well-formed names.
* `Vocabulary.parseTag_nilFor` — a tag for any well-formed name.
-/

namespace FieldRules

namespace Constraint

/-- A name that can stand in front of a group. -/
abbrev IsScopeName (name : String) : Prop := Text.IsWord isScopeChar name.toList

theorem isBlank_of_isScopeChar {c : Char} (hc : isScopeChar c = true) : Text.isBlank c = false := by
  simp only [isScopeChar, Bool.or_eq_true, beq_iff_eq] at hc
  rcases hc with ((hc | rfl) | rfl) | rfl
  · exact Text.isBlank_of_isAlphanum hc
  · decide
  · decide
  · decide

/-- The scope in front of a group is a well-formed name. -/
theorem isScopeName_of_scopeMark? {s rest : List Char} {scope : String}
    (h : scopeMark? s = some (scope, rest)) : IsScopeName scope := by
  unfold scopeMark? at h
  simp only at h
  split at h
  · split at h
    · cases h
    · next hne =>
      cases h
      rw [IsScopeName, String.toList_ofList]
      exact Text.IsWord.takeWhile (by simpa using hne)
  · cases h

/-- A well-formed name with a colon behind it is the scope in front of a group, whatever blanks
stand around the name. -/
theorem scopeMark?_append {before behind : List Char} {name : String} (hbefore : Text.Blanks before)
    (hname : IsScopeName name) (hbehind : Text.Blanks behind) (rest : List Char) :
    scopeMark? (before ++ (name.toList ++ (behind ++ ':' :: rest))) = some (name, rest) := by
  have htrim : Text.trimStart (before ++ (name.toList ++ (behind ++ ':' :: rest))) =
      name.toList ++ (behind ++ ':' :: rest) := by
    rw [Text.trimStart_blanks_append hbefore, hname.trimStart_append isBlank_of_isScopeChar]
  have hcolon : Text.trimStart (behind ++ ':' :: rest) = ':' :: rest := by
    rw [Text.trimStart_blanks_append hbehind, Text.trimStart_cons (by decide)]
  have hend : ∀ c more, behind ++ ':' :: rest = c :: more → isScopeChar c = false := by
    intro c more h
    cases hc : isScopeChar c with
    | false => rfl
    | true =>
      -- a scope's character would be left by trimming, which leaves the colon
      rw [h, Text.trimStart_cons (isBlank_of_isScopeChar hc)] at hcolon
      cases hcolon
      cases hc
  obtain ⟨htake, hdrop⟩ := hname.span hend
  simp [scopeMark?, htrim, htake, hdrop, hcolon, hname.ne_nil]

theorem isScopeName_of_readGroups {v : Vocabulary} {fuel : Nat} {s : List Char}
    {groups : List (String × Constraint)} (h : readGroups v fuel s = .ok groups) :
    ∀ g ∈ groups, IsScopeName g.1 := by
  induction fuel generalizing s groups with
  | zero => cases h
  | succ fuel ih =>
    obtain ⟨scope, body, hmark⟩ : ∃ scope body, (scopeMark? s).getD (wildcard, s) = (scope, body) :=
      ⟨_, _, rfl⟩
    have hfirst : IsScopeName scope := by
      cases hfound : scopeMark? s with
      | none =>
        rw [hfound] at hmark
        cases hmark
        decide
      | some mark =>
        rw [hfound] at hmark
        cases hmark
        exact isScopeName_of_scopeMark? hfound
    rw [readGroups, hmark] at h
    obtain ⟨⟨c, rest⟩, -, h⟩ := bind_eq_ok_iff.1 h
    simp only at h
    split at h
    · cases h
      simpa using hfirst
    · obtain ⟨more, hmore, h⟩ := bind_eq_ok_iff.1 h
      cases h
      simpa using ⟨hfirst, fun name c hg => ih hmore (name, c) hg⟩
    · cases h

end Constraint

namespace Vocabulary

variable {v : Vocabulary}

/-- The scopes of a tag's groups are well-formed names. -/
theorem isScopeName_of_parseTag {tag : String} {groups : List (String × Constraint)}
    (h : v.parseTag tag = .ok groups) : ∀ g ∈ groups, Constraint.IsScopeName g.1 := by
  unfold parseTag at h
  simp only at h
  split at h
  · cases h
    simp
  · split at h
    · cases h
    · next hgroups =>
      cases h
      exact Constraint.isScopeName_of_readGroups hgroups

/-- The tag that lets only what is absent pass, in one scope. -/
def nilFor (name : String) : String := String.ofList (name.toList ++ ":nil".toList)

/-- A tag for any well-formed name. -/
theorem parseTag_nilFor (v : Vocabulary) {name : String} (hname : Constraint.IsScopeName name) :
    v.parseTag (nilFor name) = .ok [(name, .nil)] := by
  have hnil : Constraint.readExpression v "nil".toList = .ok (.nil, []) := rfl
  have hmark : Constraint.scopeMark? (name.toList ++ ":nil".toList) = some (name, "nil".toList) :=
    Constraint.scopeMark?_append Text.blanks_nil hname Text.blanks_nil "nil".toList
  have hgroups : ∀ fuel, Constraint.readGroups v (fuel + 1) (name.toList ++ ":nil".toList) =
      .ok [(name, .nil)] := by
    intro fuel
    rw [Constraint.readGroups, hmark, Option.getD_some]
    simp only [hnil]
    rfl
  have hblank : (Text.trimStart (name.toList ++ ":nil".toList)).isEmpty = false := by
    rw [hname.trimStart_append Constraint.isBlank_of_isScopeChar]
    simp [hname.ne_nil]
  rw [parseTag, nilFor]
  simp only [String.toList_ofList, hblank, Bool.false_eq_true, if_false, hgroups]

end Vocabulary

end FieldRules
