/-!
# Folders

A command line stands in a folder of files.  A path is followed name by name from that folder, or
from outside it when a slash stands in front.  What lies outside the folder is not known here, so
nothing is found there, though it can be walked through upwards.  Every name before the last has to
be a folder, and so has the last one when a slash follows it; the file that is read in the end must
not be one.

## Main definitions

* `Obstacle` — why a file cannot be read.
* `Folder.read` — the text of the file that a path leads to.
-/

namespace FieldRules.CommandLine

/-- Why a file cannot be read. -/
inductive Obstacle where
  /-- What the system reports, with its number. -/
  | system (report : String) (code : Nat)
  /-- A file that is there and is no text. -/
  | notText
  deriving DecidableEq, Repr

namespace Obstacle

/-- Nothing of that name. -/
def missing : Obstacle := .system "No such file or directory" 2

/-- A file where the path goes on. -/
def notFolder : Obstacle := .system "Not a directory" 20

/-- A folder where the path ends. -/
def isFolder : Obstacle := .system "Is a directory" 21

/-- A name, or a whole path, beyond the limits of the system. -/
def nameTooLong : Obstacle := .system "File name too long" 36

/-- How an obstacle is told. -/
def message : Obstacle → String
  | .system report code => report ++ " (os error " ++ toString code ++ ")"
  | .notText => "stream did not contain valid UTF-8"

end Obstacle

/-- Splits a path at its slashes. -/
def splitPath : List Char → List (List Char)
  | [] => [[]]
  | c :: rest =>
    match splitPath rest with
    | [] => [[c]]
    | name :: names => if c = '/' then [] :: name :: names else (c :: name) :: names

/-- The names between the slashes of a path. -/
def pathNames (path : String) : List String := (splitPath path.toList).map String.ofList

/-- A name that leads nowhere. -/
def isHere (name : String) : Bool := name == "" || name == "."

/-- The files of a folder: the names that lead to each, and its text. -/
structure Folder where
  files : List (List String × String)

namespace Folder

/-- The folder of some files by path; of two files of one path the last one stays. -/
def ofList (files : List (String × String)) : Folder :=
  ⟨files.reverse.map fun file => ((pathNames file.1).filter (!isHere ·), file.2)⟩

/-- The text of the file that some names lead to. -/
def file? (f : Folder) (names : List String) : Option String := f.files.lookup names

/-- Whether some names lead to a folder on the way to a file. -/
def hasFolder (f : Folder) (names : List String) : Bool :=
  f.files.any fun file => names.isPrefixOf file.1

/-- The longest name, in bytes. -/
def maxName : Nat := 255

/-- The longest path, in bytes. -/
def maxPath : Nat := 4095

/-- The place above a place; `none` is everywhere outside the folder. -/
def above : Option (List String) → Option (List String)
  | some (name :: names) => some (name :: names).dropLast
  | _ => none

/-- Follows the names of a path from a place. -/
def follow (f : Folder) : Option (List String) → List String → Except Obstacle String
  | _, [] => .error .isFolder
  | place, name :: rest =>
    if isHere name then follow f place rest
    else if name = ".." then follow f (above place) rest
    else if maxName < name.utf8ByteSize then .error .nameTooLong
    else match place with
      | none => .error .missing
      | some names =>
        let next := names ++ [name]
        match f.file? next with
        | some text => if rest.isEmpty then .ok text else .error .notFolder
        | none => if f.hasFolder next then follow f (some next) rest else .error .missing

/-- The text of the file that a path leads to. -/
def read (f : Folder) (path : String) : Except Obstacle String :=
  if maxPath < path.utf8ByteSize then .error .nameTooLong
  else follow f (if path.toList.head? = some '/' then none else some []) (pathNames path)

end Folder

end FieldRules.CommandLine
