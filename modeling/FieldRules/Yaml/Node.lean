import FieldRules.Yaml.Scalar

/-!
# YAML documents

A document is a collection in brackets, which holds scalars and further collections, or nothing at
all.  A key of a mapping is a scalar; key and colon stand on one line, not too far apart.  Values may
be left out.  A comma may follow the last part of a collection, comments run from `#` to the end of a
line, and lines with three hyphens or points mark where the document begins and ends.

What YAML says by indentation, and anchors, tags and directives, are not read.

## Main definitions

* `Node` — documents.
* `Node.ofText?` — reads a document.
-/

namespace FieldRules.Yaml

/-- A part of a document. -/
inductive Node where
  | scalar (isPlain : Bool) (text : String)
  | sequence (items : List Node)
  | mapping (entries : List (String × Node))

namespace Node

/-- What stands for a part that is left out. -/
def blank : Node := .scalar true ""

instance : Inhabited Node := ⟨blank⟩

/-- The text of a scalar. -/
def text? : Node → Option String
  | .scalar _ text => some text
  | _ => none

/-- How many bytes lie between the beginning of a key and its colon at most. -/
def maxKey : Nat := 1024

/-- Whether the colon of a key that begins at `start` may stand at `colon`. -/
def keyFits (start colon : Spot) : Bool :=
  start.line == colon.line && colon.offset ≤ start.offset + maxKey

/-- How deep collections may nest. -/
def maxDepth : Nat := 128

mutual

/-- Reads a node.  The first argument bounds the steps still to be taken, the second how deep the
node may still nest. -/
def read? : Nat → Nat → List Spot → Option (Node × List Spot)
  | 0, _, _ => none
  | _, _, [] => none
  | fuel + 1, depth, s :: rest =>
    if isDocumentMarker (s :: rest) then none
    else if s.char == '[' then
      match depth with
      | 0 => none
      | depth + 1 => (readItems? fuel depth (skipInside rest)).map fun r => (.sequence r.1, r.2)
    else if s.char == '\x7b' then
      match depth with
      | 0 => none
      | depth + 1 => (readEntries? fuel depth (skipInside rest)).map fun r => (.mapping r.1, r.2)
    else if s.char == '"' || s.char == '\'' then
      (quoted? s.char rest).map fun r => (.scalar false r.1, r.2)
    else if startsPlain (s :: rest) then
      (plain? (s :: rest)).map fun r => (.scalar true r.1, r.2)
    else none

/-- Reads a value after its colon, where it may be left out before a comma and before the end of its
collection. -/
def readValue? (closing : Char) : Nat → Nat → List Spot → Option (Node × List Spot)
  | 0, _, _ => none
  | _, _, [] => none
  | fuel + 1, depth, s :: rest =>
    if s.char == ',' || s.char == closing then some (blank, s :: rest)
    else read? fuel depth (s :: rest)

/-- Reads the items of a sequence and its closing bracket.  An item with a colon is a mapping of one
entry. -/
def readItems? : Nat → Nat → List Spot → Option (List Node × List Spot)
  | 0, _, _ => none
  | _, _, [] => none
  | fuel + 1, depth, start :: rest =>
    if start.char == ']' then some ([], rest)
    else do
      let (node, rest) ← read? fuel depth (start :: rest)
      let (item, rest) ← match skipInside rest, depth with
        | [], _ => none
        | s :: rest, depth =>
          if s.char != ':' then some (node, s :: rest)
          else match node.text?, depth with
            | some key, depth + 1 =>
              if keyFits start s then
                (readValue? ']' fuel depth (skipInside rest)).map fun r =>
                  (.mapping [(key, r.1)], r.2)
              else none
            | _, _ => none
      match skipInside rest with
      | [] => none
      | s :: rest =>
        if s.char == ',' then
          (readItems? fuel depth (skipInside rest)).map fun r => (item :: r.1, r.2)
        else if s.char == ']' then some ([item], rest)
        else none

/-- Reads the entries of a mapping and its closing bracket. -/
def readEntries? : Nat → Nat → List Spot → Option (List (String × Node) × List Spot)
  | 0, _, _ => none
  | _, _, [] => none
  | fuel + 1, depth, start :: rest =>
    if start.char == '\x7d' then some ([], rest)
    else do
      let (node, rest) ← read? fuel depth (start :: rest)
      let key ← node.text?
      let (value, rest) ← match skipInside rest with
        | [] => none
        | s :: rest =>
          if s.char != ':' then some (blank, s :: rest)
          else if keyFits start s then readValue? '\x7d' fuel depth (skipInside rest)
          else none
      match skipInside rest with
      | [] => none
      | s :: rest =>
        if s.char == ',' then
          (readEntries? fuel depth (skipInside rest)).map fun r => ((key, value) :: r.1, r.2)
        else if s.char == '\x7d' then some ([(key, value)], rest)
        else none

end

/-- Whether nothing follows but marks of the document's end.  The first argument bounds their
number. -/
def isFinished : Nat → List Spot → Bool
  | 0, _ => false
  | fuel + 1, s =>
    s.isEmpty || (isMarker '.' s && isFinished fuel (skip false true false (s.drop 3)))

/-- Reads a whole document. -/
def ofSpots? (s : List Spot) : Option Node := do
  let opening := skip false false false s
  let s := if isMarker '-' opening then skip false true false (opening.drop 3) else opening
  let (node, rest) ←
    match s with
    | [] => some (blank, [])
    | first :: _ =>
      if first.char == '[' || first.char == '\x7b' then read? (s.length + 1) maxDepth s
      else if isMarker '-' opening && isMarker '.' s then some (blank, s)
      else none
  if isFinished (rest.length + 1) (skip false true false rest) then some node else none

/-- The document that a text denotes. -/
def ofText? (text : String) : Option Node := (Spot.ofText? text).bind ofSpots?

end Node

end FieldRules.Yaml
