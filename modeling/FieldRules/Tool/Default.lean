import FieldRules.Registry

/-!
# Filling fields

The default tool fills a field with a fixed value, with the value of a constant, with something found
in the same record, or with the answer of a field function, scope by scope.  A question mark in front
of a configuration keeps a field that is set.  The id tool does the same with the first part of an id
tag.
-/

namespace FieldRules.Tool

/-- The tag key and the name of the default tool. -/
def defaultName : String := "default"

/-- The tag key and the name of the id tool. -/
def idName : String := "id"

/-- What a field is filled with. -/
inductive Filling where
  | fixed (v : Value)
  | copied (source : Applier.Source)
  | computed (name : String) (f : FieldFunction)

/-- What a configuration of the default tool says. -/
structure Default where
  onlyIfZero : Bool
  filling : Filling

/-- What is done to fill a field. -/
def Filling.applier : Filling → Applier
  | .fixed v => .value v
  | .copied source => .copy source
  | .computed name f => .function name f

/-- What is done for a configuration. -/
def Default.applier (d : Default) : Applier :=
  if d.onlyIfZero then .ifZero d.filling.applier else d.filling.applier

/-- The value of a literal as the field's kind. -/
def fixedLiteral (literal : String) (field : Field) : Except Error Filling :=
  match Value.coerceText literal field.kind with
  | .ok v => .ok (.fixed v)
  | .error misfit =>
    .error (.configuration ("default \"" ++ literal ++ "\": " ++ misfit.message))

/-- The value of a constant, converted to the field's kind. -/
def fixedConstant (v : Value) (field : Field) : Except Error Filling :=
  match v.coerce field.kind field.isOptional with
  | .ok v => .ok (.fixed v)
  | .error misfit => .error (.configuration ("default value: " ++ misfit.message))

/-- Where in the record the text after `$.` points to: a method when it ends in parentheses, else a
field. -/
def sourceOf (path : List Char) : Applier.Source :=
  if ['(', ')'].isSuffixOf path then .method (String.ofList path.dropLast.dropLast)
  else .field (String.ofList path)

/-- Whether a source names nothing. -/
def isNameless : Applier.Source → Bool
  | .whole => false
  | .field path => path.isEmpty
  | .method name => name.isEmpty

/-- Reads what a field is filled with.  `config` is the whole configuration, for the errors. -/
def readFilling (registry : Registry) (field : Field) (config : String) :
    List Char → Except Error Filling
  | [] => .error (.configuration "empty default")
  | '=' :: literal =>
    let literal := String.ofList literal
    match registry.constant? literal with
    | some v => fixedConstant v field
    | none => fixedLiteral literal field
  | ['$'] => .ok (.copied .whole)
  | '$' :: '.' :: path =>
    let source := sourceOf path
    if isNameless source then
      .error (.configuration ("default \"" ++ config ++ "\": missing source name"))
    else .ok (.copied source)
  | '$' :: rest =>
    let name := String.ofList ('$' :: rest)
    match registry.function? name with
    | some f => .ok (.computed name f)
    | none =>
      .error (.configuration
        ("default \"" ++ config ++ "\": unknown field function \"" ++ name ++ "\""))
  | _ => .error (.configuration ("default \"" ++ config ++ "\" must start with '=' or '$'"))

/-- Reads a configuration of the default tool. -/
def readDefault (registry : Registry) (field : Field) (config : String) : Except Error Default :=
  let chars := Text.trim config.toList
  let text := String.ofList chars
  match chars with
  | '?' :: rest => (readFilling registry field text (Text.trimStart rest)).map (⟨true, ·⟩)
  | chars => (readFilling registry field text chars).map (⟨false, ·⟩)

/-- The plan of a directive of the default tool. -/
def defaultPlan (registry : Registry) (field : Field) (directive : String) :
    Except Error (Plan Default) :=
  (Directive.read directive).plan registry.aliases fun _ config =>
    (readDefault registry field config).map some

/-- The default tool. -/
def default : Tool where
  name := defaultName
  applier registry field tag :=
    match tag with
    | none => .ok none
    | some directive => (defaultPlan registry field directive).map (·.applier? Default.applier)

/-- What stands before the first comma of a text. -/
def beforeComma (s : String) : List Char := s.toList.takeWhile (· != ',')

/-- The id tool. -/
def id : Tool where
  name := idName
  applier registry field tag :=
    match tag with
    | none => .ok none
    | some tag =>
      let directive := Text.trim (beforeComma tag)
      if directive.isEmpty then .ok none
      else
        (defaultPlan registry field (String.ofList directive)).map (·.applier? Default.applier)

end FieldRules.Tool
