import FieldRules.Registry

/-!
# Trimming fields

The trim tool removes the blanks around a text field, on both sides or on the side that the tag
names.  A field without blanks there is left alone, and so is what does not read as a text.
-/

namespace FieldRules.Tool

/-- The tag key and the name of the trim tool. -/
def trimName : String := "trim"

/-- Where blanks are removed. -/
inductive TrimSide where
  | both
  | start
  | end
  deriving DecidableEq, Repr

namespace TrimSide

/-- The side of a name. -/
def ofName? : String → Option TrimSide
  | "both" => some .both
  | "start" => some .start
  | "end" => some .end
  | _ => none

/-- Removes the blanks of a text on a side. -/
def trim : TrimSide → List Char → List Char
  | .both => Text.trim
  | .start => Text.trimStart
  | .end => Text.trimEnd

end TrimSide

/-- Removes the blanks of a field. -/
def trimApplier (side : TrimSide) : Applier := fun field r ctx =>
  match field.read? r with
  | some (.text s) =>
    let trimmed := side.trim s.toList
    if trimmed.length = s.length then ⟨r, ctx, .ok ()⟩
    else
      match field.store r (.text (String.ofList trimmed)) with
      | .ok r => ⟨r, ctx, .ok ()⟩
      | .error e => ⟨r, ctx, .error e⟩
  | _ => ⟨r, ctx, .ok ()⟩

/-- The trim tool. -/
def trim : Tool where
  name := trimName
  applier _ field tag :=
    match tag with
    | none => .ok none
    | some side =>
      if field.kind ≠ .text then
        .error (.configuration ("trim applies to text fields, not " ++ field.kind.name))
      else
        match TrimSide.ofName? side with
        | some side => .ok (some (trimApplier side))
        | none => .error (.configuration ("unknown trim side \"" ++ side ++ "\""))

end FieldRules.Tool
