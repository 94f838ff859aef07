import FieldRules.Fixture
import FieldRules.Proofs.Access.Registration
import FieldRules.Proofs.Dict

/-!
# What a passing access case says

An access case lists, by name, the letters of the kinds of access that a tag should grant.  Running it
compares what each registered name is granted with what is listed for it, and a registered name that
is not listed with nothing.  So a case that passes tells the truth about the registered names.  About
the other names that it lists nothing is compared: they are allowed nothing, whatever is listed.

## Main definitions

* `Fixture.Grants` — a name is allowed exactly the kinds whose letters are listed.
* `Fixture.AccessCase.Passes`, `Fixture.AccessCase.IsMetBy` — all results of a case have passed, and
  what this says of a tag.

## Main statements

* `Fixture.grants_iff_of_position?`, `Fixture.grants_iff_of_unregistered` — what a mask grants to a
  name that is registered, and to one that is not.
* `Fixture.AccessCase.passes_iff` — which cases pass.
* `Fixture.AccessCase.listed_of_passes` — what a passing case says of all that it lists.
-/

namespace FieldRules.Fixture

variable {p : Principals} {mask : AccessMask} {name letters : String} {k : AccessKind}

/-! ## Letters -/

/-- A set of kinds is what its own letters stand for. -/
theorem kindsOf_display (k : AccessKind) : kindsOf k.display = k := by
  rcases k with ⟨_ | _, _ | _, _ | _⟩ <;> decide

/-- Two sets are told alike only when they are the same. -/
theorem display_eq_iff {k' : AccessKind} : k.display = k'.display ↔ k = k' := by
  constructor
  · intro h
    rw [← kindsOf_display k, h, kindsOf_display]
  · exact congrArg AccessKind.display

/-- A name is allowed exactly the kinds of access whose letters are listed. -/
structure Grants (p : Principals) (mask : AccessMask) (name letters : String) : Prop where
  read : p.allows mask (.named name) .reading = true ↔ 'r' ∈ letters.toList
  create : p.allows mask (.named name) .creating = true ↔ 'c' ∈ letters.toList
  update : p.allows mask (.named name) .updating = true ↔ 'u' ∈ letters.toList

/-- A set of kinds is that of some letters when it has each kind whose letter is among them. -/
theorem eq_kindsOf_iff :
    k = kindsOf letters ↔ (k.contains .reading = true ↔ 'r' ∈ letters.toList) ∧
      (k.contains .creating = true ↔ 'c' ∈ letters.toList) ∧
      (k.contains .updating = true ↔ 'u' ∈ letters.toList) := by
  obtain ⟨read, create, update⟩ := k
  rw [kindsOf, AccessKind.mk.injEq, Bool.eq_iff_iff, Bool.eq_iff_iff (a := create),
    Bool.eq_iff_iff (a := update)]
  simp [AccessKind.contains, AccessKind.reading, AccessKind.creating, AccessKind.updating]

/-- A registered name is granted what the mask holds for its position. -/
theorem grants_iff_of_position? {i : Nat} (h : p.position? name = some i) :
    Grants p mask name letters ↔ mask.kinds i = kindsOf letters := by
  rw [eq_kindsOf_iff]
  constructor
  · rintro ⟨hread, hcreate, hupdate⟩
    simp only [Principals.allows, h] at hread hcreate hupdate
    exact ⟨hread, hcreate, hupdate⟩
  · rintro ⟨hread, hcreate, hupdate⟩
    constructor <;> simpa only [Principals.allows, h]

theorem position?_eq_none_iff : p.position? name = none ↔ name ∉ p.names := by
  rw [Principals.position?, List.findIdx?_eq_none_iff]
  constructor
  · intro h hname
    exact Bool.noConfusion ((h name hname).symm.trans (beq_self_eq_true name))
  · intro h other hother
    rw [beq_eq_false_iff_ne]
    rintro rfl
    exact h hother

/-- A name that is not registered is granted what is listed only when nothing is. -/
theorem grants_iff_of_unregistered (h : name ∉ p.names) :
    Grants p mask name letters ↔ kindsOf letters = .none := by
  have hnone := position?_eq_none_iff.2 h
  rw [eq_comm, eq_kindsOf_iff]
  constructor
  · rintro ⟨hread, hcreate, hupdate⟩
    simp only [Principals.allows, hnone] at hread hcreate hupdate
    exact ⟨hread, hcreate, hupdate⟩
  · rintro ⟨hread, hcreate, hupdate⟩
    constructor <;> simpa only [Principals.allows, hnone]

namespace AccessCase

variable {c : Catalog} {x : AccessCase} {spec : AccessSpec}

/-! ## Passing -/

/-- All results of a case have passed. -/
def Passes (c : Catalog) (x : AccessCase) : Prop := ∀ r ∈ x.run c, r.hasPassed = true

/-- The letters that are listed for a name: none when it is not listed. -/
def lettersOf (x : AccessCase) (name : String) : String := (x.grants.find? name).getD ""

/-- What a case says of a tag and the registered names. -/
structure IsMetBy (p : Principals) (x : AccessCase) (spec : AccessSpec) : Prop where
  provided : spec.isProvided = x.isProvided
  registered : ∀ name ∈ p.names, Grants p spec.mask name (x.lettersOf name)

theorem mem_describe_iff {grant : String × AccessKind} :
    grant ∈ p.describe mask ↔ ∃ i, p.names[i]? = some grant.1 ∧ mask.kinds i = grant.2 := by
  obtain ⟨name, k⟩ := grant
  simp [Principals.describe, List.mem_zipIdx_iff_getElem?]

/-- A case passes when its tag is read, and each position of a registered name holds what is listed
for the name. -/
theorem passes_iff (hx : x.error? = none) :
    x.Passes c ↔ ∃ spec, c.registry.principals.parseTag x.tag = .ok spec ∧
      spec.isProvided = x.isProvided ∧ ∀ i name, c.registry.principals.names[i]? = some name →
        spec.mask.kinds i = kindsOf (x.lettersOf name) := by
  rw [Passes, run, hx]
  cases hread : c.registry.principals.parseTag x.tag with
  | error e => simp
  | ok spec =>
    simp only [List.forall_mem_cons, List.forall_mem_map, agreement, beq_iff_eq, display_eq_iff,
      Except.ok.injEq, exists_eq_left']
    refine and_congr_right fun _ => ?_
    constructor
    · intro h i name hname
      exact h (name, spec.mask.kinds i) (mem_describe_iff.2 ⟨i, hname, rfl⟩)
    · intro h grant hgrant
      obtain ⟨i, hname, hkinds⟩ := mem_describe_iff.1 hgrant
      rw [← hkinds]
      exact h i _ hname

/-- A case that passes is met by what its tag says. -/
theorem exists_isMetBy_of_passes (hx : x.error? = none) (h : x.Passes c) :
    ∃ spec, c.registry.principals.parseTag x.tag = .ok spec ∧
      x.IsMetBy c.registry.principals spec := by
  obtain ⟨spec, hread, hprovided, hpositions⟩ := (passes_iff hx).1 h
  refine ⟨spec, hread, hprovided, fun name hname => ?_⟩
  cases hposition : c.registry.principals.position? name with
  | none => exact absurd hname (position?_eq_none_iff.1 hposition)
  | some i =>
    rw [grants_iff_of_position? hposition]
    exact hpositions i name (Principals.getElem?_of_position? hposition)

/-- A case that is met passes, where no name has two positions. -/
theorem passes_of_isMetBy (hp : c.registry.principals.WellFormed) (hx : x.error? = none)
    (hread : c.registry.principals.parseTag x.tag = .ok spec)
    (h : x.IsMetBy c.registry.principals spec) : x.Passes c := by
  refine (passes_iff hx).2 ⟨spec, hread, h.provided, fun i name hname => ?_⟩
  rw [← grants_iff_of_position? (hp.position?_eq_some_iff.2 hname)]
  exact h.registered name (List.mem_of_getElem? hname)

/-! ## All that is listed -/

/-- What is listed for a registered name is granted where the case is met, and what is listed for
another name only when it is nothing. -/
theorem IsMetBy.grants_iff (h : x.IsMetBy p spec) (hlisted : x.grants.find? name = some letters) :
    Grants p spec.mask name letters ↔ name ∈ p.names ∨ kindsOf letters = .none := by
  by_cases hname : name ∈ p.names
  · have hgranted := h.registered name hname
    rw [lettersOf, hlisted, Option.getD_some] at hgranted
    exact iff_of_true hgranted (.inl hname)
  · rw [grants_iff_of_unregistered hname]
    exact ⟨.inr, fun h => h.resolve_left hname⟩

/-- **What a passing case says.**  Its tag is read, the field is provided as expected, and each
registered name is allowed exactly what is listed for it, and nothing if it is not listed; conversely
this makes the case pass.  All that is listed is then allowed if and only if no letters of kinds are
listed for a name that is not registered. -/
theorem listed_of_passes (hx : x.error? = none) :
    (x.Passes c → ∃ spec, c.registry.principals.parseTag x.tag = .ok spec ∧
      x.IsMetBy c.registry.principals spec ∧
      ((∀ name letters, x.grants.find? name = some letters →
          Grants c.registry.principals spec.mask name letters) ↔
        ∀ name letters, x.grants.find? name = some letters →
          name ∈ c.registry.principals.names ∨ kindsOf letters = .none)) ∧
    (c.registry.principals.WellFormed → ∀ spec,
      c.registry.principals.parseTag x.tag = .ok spec → x.IsMetBy c.registry.principals spec →
        x.Passes c) := by
  constructor
  · intro hpass
    obtain ⟨spec, hread, hmet⟩ := exists_isMetBy_of_passes hx hpass
    exact ⟨spec, hread, hmet, forall₃_congr fun name letters hlisted => hmet.grants_iff hlisted⟩
  · intro hp spec hread hmet
    exact passes_of_isMetBy hp hx hread hmet

/-- A catalog with two principals. -/
def newsroom : Catalog where
  registry := { Registry.empty with principals := ⟨["editor", "author"]⟩ }
  tools := []

/-- What the tag of a column in a newspaper grants, with the letters in any order. -/
def column : AccessCase where
  tag := "rw, r-, provided"
  error? := none
  isProvided := true
  grants := [("author", "r--"), ("editor", "ucr"), ("reader", "-")]

theorem listed_of_passes_column :
    column.error? = none ∧ column.Passes newsroom ∧
      ∃ spec, newsroom.registry.principals.parseTag column.tag = .ok spec ∧
        Grants newsroom.registry.principals spec.mask "editor" "ucr" ∧
        Grants newsroom.registry.principals spec.mask "reader" "-" := by
  have hpass : column.Passes newsroom := by
    unfold Passes
    decide
  obtain ⟨spec, hread, -, hlisted⟩ := (listed_of_passes rfl).1 hpass
  have hall := hlisted.2 (by
    intro name letters hfind
    have hmem := Dict.mem_of_find?_eq_some hfind
    revert hmem
    simp only [column, List.mem_cons, List.not_mem_nil, or_false, Prod.mk.injEq]
    rintro (⟨rfl, rfl⟩ | ⟨rfl, rfl⟩ | ⟨rfl, rfl⟩)
    · exact .inl (by decide)
    · exact .inl (by decide)
    · exact .inr (by decide))
  exact ⟨rfl, hpass, spec, hread, hall "editor" "ucr" (by decide), hall "reader" "-" (by decide)⟩

/-- A case that lists a letter for a name which is not registered. -/
def ghost : AccessCase where
  tag := "--,--"
  error? := none
  isProvided := false
  grants := [("ghost", "r")]

/-- Such a case passes when the tag grants nothing to anyone, although it lists more. -/
theorem not_listed_of_passes_ghost :
    ghost.error? = none ∧ ghost.Passes newsroom ∧ ghost.grants.find? "ghost" = some "r" ∧
      ∃ spec, newsroom.registry.principals.parseTag ghost.tag = .ok spec ∧
        newsroom.registry.principals.allows spec.mask (.named "ghost") .reading = false ∧
        ¬ Grants newsroom.registry.principals spec.mask "ghost" "r" := by
  have hpass : ghost.Passes newsroom := by
    unfold Passes
    decide
  obtain ⟨spec, hread, -, -⟩ := (passes_iff rfl).1 hpass
  have hrefused : newsroom.registry.principals.allows spec.mask (.named "ghost") .reading = false :=
    rfl
  refine ⟨rfl, hpass, by decide, spec, hread, hrefused, fun hgrants => ?_⟩
  rw [hgrants.read.2 (by decide)] at hrefused
  cases hrefused

end AccessCase

end FieldRules.Fixture
