/-!
# Command line arguments

The words of a command line are options and positional words.  An option has a long name, written
after two hyphens, and a letter, written after one.  Its value is the next word, which may not look
like an option, or follows the name after an equals sign, or follows the letter at once.  After two
hyphens alone every word is positional.

## Main definitions

* `Word.ofText` — what a word is.
* `Arguments.read?` — reads all words.
* `Arguments.readCommand?` — reads the words up to the first positional one.
-/

namespace FieldRules.CommandLine

/-- The names of an option. -/
structure OptionName where
  long : String
  letter : Char
  deriving DecidableEq, Repr

/-- What a word of the command line is. -/
inductive Word where
  | positional (text : String)
  | option (long : String) (value? : Option String)
  /-- Two hyphens alone. -/
  | separator
  /-- What looks like an option and is none. -/
  | unknown
  deriving DecidableEq, Repr

namespace Word

/-- A text without an equals sign in front. -/
def withoutEquals : List Char → List Char
  | '=' :: rest => rest
  | s => s

/-- What follows the letter of an option at once, if anything does. -/
def attached? : List Char → Option String
  | [] => none
  | s => some (String.ofList (withoutEquals s))

/-- What a word is where some options are allowed. -/
def ofText (options : List OptionName) (text : String) : Word :=
  match text.toList with
  | ['-', '-'] => .separator
  | '-' :: '-' :: rest =>
    let name := String.ofList (rest.takeWhile (· != '='))
    let value? := match rest.dropWhile (· != '=') with
      | [] => none
      | _ :: value => some (String.ofList value)
    if options.any fun o => o.long == name then .option name value? else .unknown
  | '-' :: letter :: rest =>
    match options.find? fun o => o.letter == letter with
    | some o => .option o.long (attached? rest)
    | none => .unknown
  | _ => .positional text

end Word

/-- The arguments of a command: its positional words, and its options with their values, both in
order. -/
structure Arguments where
  words : List String
  options : List (String × String)
  deriving DecidableEq, Repr

namespace Arguments

/-- Adds a positional word in front. -/
def addWord (word : String) (a : Arguments) : Arguments := { a with words := word :: a.words }

/-- Adds an option in front. -/
def addOption (long value : String) (a : Arguments) : Arguments :=
  { a with options := (long, value) :: a.options }

/-- Reads all words of a command. -/
def read? (options : List OptionName) : List String → Option Arguments
  | [] => some ⟨[], []⟩
  | text :: rest =>
    match Word.ofText options text with
    | .positional word => (read? options rest).map (addWord word)
    | .option long (some value) => (read? options rest).map (addOption long value)
    | .option long none =>
      match rest with
      | [] => none
      | next :: rest =>
        match Word.ofText options next with
        | .positional value => (read? options rest).map (addOption long value)
        | _ => none
    | .separator => some ⟨rest, []⟩
    | .unknown => none

/-- Reads options up to the first positional word; answers them, that word, and the words after
it. -/
def readCommand? (options : List OptionName) :
    List String → Option (List (String × String) × String × List String)
  | [] => none
  | text :: rest =>
    match Word.ofText options text with
    | .positional word => some ([], word, rest)
    | .option long (some value) =>
      (readCommand? options rest).map fun r => ((long, value) :: r.1, r.2)
    | .option long none =>
      match rest with
      | [] => none
      | next :: rest =>
        match Word.ofText options next with
        | .positional value =>
          (readCommand? options rest).map fun r => ((long, value) :: r.1, r.2)
        | _ => none
    | .separator => none
    | .unknown => none

/-- The values of an option, in order. -/
def valuesOf (options : List (String × String)) (long : String) : List String :=
  (options.filter fun o => o.1 == long).map Prod.snd

/-- The value of an option that may be given once at most. -/
def single? (options : List (String × String)) (long : String) : Option (Option String) :=
  match valuesOf options long with
  | [] => some none
  | [value] => some (some value)
  | _ => none

end Arguments

end FieldRules.CommandLine
