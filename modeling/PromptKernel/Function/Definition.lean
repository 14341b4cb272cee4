import PromptKernel.Json.Basic
import PromptKernel.Regex.Parser
import PromptKernel.Text.Blank

/-! Descriptions of callable functions: what they are called, what they take, the template they
render, and which backend services they prefer. -/

namespace PromptKernel

inductive ParameterType
  | string
  | number
  | boolean
  | object
  | array
  /-- The running kernel, which a call hands over by itself. -/
  | kernel
deriving DecidableEq, Repr

namespace ParameterType

def name : ParameterType → String
  | string => "string"
  | number => "number"
  | boolean => "boolean"
  | object => "object"
  | array => "array"
  | kernel => "kernel"

def all : List ParameterType := [string, number, boolean, object, array, kernel]

def ofName? (text : String) : Option ParameterType := all.find? fun type => type.name == text

/-- The type that a descriptor names. It may carry white space around it, and any name without a
meaning of its own, the kernel's included, stands for an object. -/
def ofDescriptor (text : Option String) : ParameterType :=
  match text.map Text.trimmed with
  | some "string" => string
  | some "number" => number
  | some "boolean" => boolean
  | some "array" => array
  | _ => object

end ParameterType

structure Parameter where
  name : String
  type : ParameterType := .object
  description : Option String := none
  defaultValue : Option Json := none
  required : Bool := false

/-- Callers never supply a parameter of this kind. -/
def Parameter.injected (parameter : Parameter) : Bool := parameter.type == .kernel

/-- Which services a function may run on, and the parameters to send to them. -/
structure Rule where
  modelId : Option String := none
  pattern : Option Pattern := none
  parameters : Fields Json := []

/-- A rule is for the model of its exact id, and for those whose ids its pattern matches. -/
def Rule.acceptsBy (isMatch : Pattern → String → Bool) (rule : Rule) (modelId : String) : Bool :=
  rule.modelId == some modelId || rule.pattern.any (isMatch · modelId)

def Rule.accepts : Rule → String → Bool := Rule.acceptsBy Pattern.isMatch

inductive TemplateFormat
  | handlebars
  /-- Kept so that a call can report it. -/
  | other (name : String)
deriving DecidableEq, Repr

namespace TemplateFormat

def name : TemplateFormat → String
  | handlebars => "handlebars"
  | other name => name

/-- Small letters for the ASCII letters, all else as it is. -/
def asciiLower (s : String) : String := String.ofList (s.toList.map Char.toLower)

/-- The usual format has two names, in any case, and is also meant by an empty text. -/
def ofText (text : String) : TemplateFormat :=
  let text := Text.trimmed text
  if text.isEmpty ∨ asciiLower text = "handlebars" ∨ asciiLower text = "hbs" then handlebars
  else other text

end TemplateFormat

structure Definition where
  group : String
  name : String
  description : String := ""
  template : Option String := none
  format : TemplateFormat := .handlebars
  parameters : List Parameter := []
  rules : List Rule := []

namespace Definition

/-- The name under which templates call the function. -/
def helperName (definition : Definition) : String := definition.group ++ "_" ++ definition.name

/-- The group and the name, as texts for people show them. -/
def qualifiedName (definition : Definition) : String := definition.group ++ "." ++ definition.name

/-- The parameters that callers supply. -/
def ownParameters (definition : Definition) : List Parameter :=
  definition.parameters.filter fun parameter => !parameter.injected

def parameter? (definition : Definition) (name : String) : Option Parameter :=
  definition.parameters.find? fun parameter => parameter.name == name

def position? (definition : Definition) (name : String) : Option Nat :=
  definition.parameters.findIdx? fun parameter => parameter.name == name

def property (parameter : Parameter) : Json :=
  let type := [("type", Json.string parameter.type.name)]
  let description := parameter.description.toList.map fun text => ("description", Json.string text)
  let defaultValue := parameter.defaultValue.toList.map fun value => ("default", value)
  .object (Fields.ofList (type ++ description ++ defaultValue))

/-- The properties of the schema. Of two parameters with one name the later one counts. -/
def properties (definition : Definition) : Fields Json :=
  Fields.ofList (definition.ownParameters.map fun parameter => (parameter.name, property parameter))

/-- The names that a call has to supply, in order of declaration. -/
def requiredNames (definition : Definition) : List String :=
  (definition.ownParameters.filter (·.required)).map (·.name)

def describe (definition : Definition) : Json :=
  .object (Fields.ofList [
    ("name", .string definition.name),
    ("group", .string definition.group),
    ("description", .string definition.description),
    ("parameters", .object (Fields.ofList [
      ("type", .string "object"),
      ("properties", .object definition.properties),
      ("required", .array (definition.requiredNames.map .string))]))])

end Definition

structure FunctionRef where
  group : String
  name : String
deriving DecidableEq, Repr

def FunctionRef.qualifiedName (ref : FunctionRef) : String := ref.group ++ "." ++ ref.name

end PromptKernel
