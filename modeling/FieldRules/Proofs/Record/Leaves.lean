import FieldRules.FieldTable

/-!
# The leaves of a record type

The leaves of a record type are its plain attributes, however deep, each with the nested records
around it.  Depth first, they are the places that a walk can come to.  A leaf is exported when it is
declared so and so are all the records around it, and it is flat when none of these is named.

## Main definitions

* `Leaf` — a plain attribute and what is around it.
* `RecordType.leaves` — the leaves of a type, depth first.

## Main statements

* `sites_eq` — the walk meets the leaves that are exported.
-/

namespace FieldRules

/-- A plain attribute with the nested records around it, the outermost first. -/
structure Leaf where
  above : List (Declaration × Nesting)
  declaration : Declaration

namespace Leaf

/-- What stands in a location between the name of a nested record and what is inside it. -/
def sign : Nesting → String
  | .embedded => "+"
  | .named => "."

/-- The beginning of the locations inside some nested records. -/
def wayOf (above : List (Declaration × Nesting)) : String :=
  above.foldl (fun way a => way ++ a.1.name ++ sign a.2) ""

@[simp] theorem wayOf_concat (above : List (Declaration × Nesting)) (d : Declaration)
    (n : Nesting) : wayOf (above ++ [(d, n)]) = wayOf above ++ d.name ++ sign n := by
  simp [wayOf]

/-- Whether one of some nested records is named. -/
def isInNamed (above : List (Declaration × Nesting)) : Bool :=
  above.any fun a => decide (a.2 = .named)

/-- Whether a leaf and all that is around it are exported. -/
def isExported (l : Leaf) : Bool :=
  l.above.all (fun a => a.1.isExported) && l.declaration.isExported

/-- A leaf as the walk meets it. -/
def site (l : Leaf) : Site :=
  ⟨l.declaration, wayOf l.above ++ l.declaration.name, isInNamed l.above⟩

end Leaf

section

variable {α : Type}

mutual

/-- The leaves of an attribute inside some nested records, depth first. -/
def Attribute.leaves (above : List (Declaration × Nesting)) : Attribute α → List Leaf
  | .plain d _ => [⟨above, d⟩]
  | .nested d n _ attributes => allLeaves (above ++ [(d, n)]) attributes

/-- The leaves of some attributes, depth first. -/
def Attribute.allLeaves (above : List (Declaration × Nesting)) : List (Attribute α) → List Leaf
  | [] => []
  | a :: rest => leaves above a ++ allLeaves above rest

end

end

/-- The leaves of a record type, depth first. -/
def RecordType.leaves (t : RecordType) : List Leaf := Attribute.allLeaves [] t.attributes

section

variable {α : Type}

mutual

/-- What is around an attribute is around each of its leaves. -/
theorem Attribute.prefix_above_of_mem_leaves {above : List (Declaration × Nesting)}
    {a : Attribute α} {l : Leaf} (hl : l ∈ a.leaves above) : above <+: l.above := by
  cases a with
  | plain d content =>
    rw [leaves, List.mem_singleton] at hl
    exact hl ▸ List.prefix_rfl
  | nested d n info attributes =>
    rw [leaves] at hl
    exact (List.prefix_append above _).trans (prefix_above_of_mem_allLeaves hl)

theorem Attribute.prefix_above_of_mem_allLeaves {above : List (Declaration × Nesting)}
    {attributes : List (Attribute α)} {l : Leaf} (hl : l ∈ allLeaves above attributes) :
    above <+: l.above := by
  cases attributes with
  | nil => cases hl
  | cons a rest =>
    rw [allLeaves, List.mem_append] at hl
    rcases hl with hl | hl
    · exact prefix_above_of_mem_leaves hl
    · exact prefix_above_of_mem_allLeaves hl

end

/-- Nothing is exported inside a record that is not. -/
theorem Attribute.filter_isExported_eq_nil {above : List (Declaration × Nesting)}
    {d : Declaration} (hd : d.isExported = false) (n : Nesting) (attributes : List (Attribute α)) :
    (allLeaves (above ++ [(d, n)]) attributes).filter Leaf.isExported = [] := by
  rw [List.filter_eq_nil_iff]
  intro l hl hexported
  obtain ⟨inner, hinner⟩ := prefix_above_of_mem_allLeaves hl
  simp [Leaf.isExported, ← hinner, hd] at hexported

mutual

theorem siteOf_eq {above : List (Declaration × Nesting)}
    (habove : above.all (fun a => a.1.isExported) = true) (a : Attribute α) :
    siteOf (Leaf.wayOf above) (Leaf.isInNamed above) a =
      ((a.leaves above).filter Leaf.isExported).map Leaf.site := by
  cases a with
  | plain d content =>
    cases hd : d.isExported <;>
      simp [siteOf, Attribute.leaves, Leaf.isExported, Leaf.site, habove, hd]
  | nested d n info attributes =>
    cases hd : d.isExported with
    | false =>
      rw [Attribute.leaves, Attribute.filter_isExported_eq_nil hd]
      cases n <;> simp [siteOf, hd]
    | true =>
      have hwithin : (above ++ [(d, n)]).all (fun a => a.1.isExported) = true := by
        simp [List.all_append, habove, hd]
      have hinner := sites_eq hwithin attributes
      rw [Attribute.leaves, ← hinner]
      cases n <;> simp [siteOf, hd, Leaf.isInNamed, Leaf.sign]

/-- **The walk meets the leaves that are exported**, inside nested records that are. -/
theorem sites_eq {above : List (Declaration × Nesting)}
    (habove : above.all (fun a => a.1.isExported) = true)
    (attributes : List (Attribute α)) :
    sites (Leaf.wayOf above) (Leaf.isInNamed above) attributes =
      ((Attribute.allLeaves above attributes).filter Leaf.isExported).map Leaf.site := by
  cases attributes with
  | nil => rfl
  | cons a rest =>
    rw [sites, Attribute.allLeaves, List.filter_append, List.map_append, siteOf_eq habove,
      sites_eq habove]

end

end

end FieldRules
