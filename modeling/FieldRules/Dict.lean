/-!
# Dictionaries with text keys

A dictionary is a list of entries in strictly increasing order of their keys, where texts are
ordered by code points.  So equal dictionaries are equal lists, and every listing of a dictionary
is in the one order.

## Main definitions

* `Dict.find?` — the value under a key.
* `Dict.insert` — sets a key, replacing what was there.
* `Dict.ofList` — inserts from left to right: the last value of a key is kept.
-/

namespace FieldRules

/-- Entries in the order of their keys. -/
abbrev Dict (α : Type) := List (String × α)

namespace Dict

/-- The value under a key. -/
def find? {α : Type} (d : Dict α) (key : String) : Option α :=
  match d with
  | [] => none
  | (k, v) :: rest => if k = key then some v else find? rest key

/-- Whether a key has a value. -/
def contains {α : Type} (d : Dict α) (key : String) : Bool := (find? d key).isSome

/-- Sets a key, replacing the value that it had. -/
def insert {α : Type} (d : Dict α) (key : String) (value : α) : Dict α :=
  match d with
  | [] => [(key, value)]
  | (k, v) :: rest =>
    if k < key then (k, v) :: insert rest key value
    else if k = key then (key, value) :: rest
    else (key, value) :: (k, v) :: rest

/-- Forgets a key. -/
def erase {α : Type} (d : Dict α) (key : String) : Dict α :=
  List.filter (fun e => e.1 != key) d

/-- The keys in order. -/
def keys {α : Type} (d : Dict α) : List String := List.map Prod.fst d

/-- Inserts entries from left to right, so that the last value of a key is kept. -/
def ofList {α : Type} (entries : List (String × α)) : Dict α :=
  entries.foldl (fun d e => Dict.insert d e.1 e.2) []

/-- What `insert` does to the view by keys. -/
theorem find?_insert {α : Type} (d : Dict α) (key : String) (value : α) (key' : String) :
    find? (insert d key value) key' = if key = key' then some value else find? d key' := by
  induction d with
  | nil => simp [insert, find?]
  | cons e rest ih =>
    obtain ⟨k, v⟩ := e
    unfold insert
    split
    · by_cases h : k = key'
      · subst h
        have hne : key ≠ k := fun e => String.lt_irrefl k (e ▸ ‹k < key›)
        simp [find?, hne]
      · simp [find?, h, ih]
    · split
      · subst k
        by_cases h : key = key' <;> simp [find?, h]
      · by_cases h : key = key' <;> simp [find?, h]

end Dict

end FieldRules
