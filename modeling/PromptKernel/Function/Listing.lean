import PromptKernel.Function.Definition
import PromptKernel.Text.Listing

/-! Listings of definitions. -/

namespace PromptKernel

def ParameterType.listing : ParameterType → String
  | string => "String"
  | number => "Number"
  | boolean => "Boolean"
  | object => "Object"
  | array => "Array"
  | kernel => "Kernel"

def Parameter.listing (parameter : Parameter) : String :=
  Listing.record "ParameterSpec" [
    ("name", Text.quoted parameter.name), ("parameter_type", parameter.type.listing),
    ("description", Listing.optional Text.quoted parameter.description),
    ("default_value", Listing.optional Listing.value parameter.defaultValue),
    ("required", Listing.flag parameter.required)]

def Pattern.listing (pattern : Pattern) : String :=
  "Regex(" ++ Text.quoted pattern.source ++ ")"

def Rule.listing (rule : Rule) : String :=
  Listing.record "ExecutionSettings" [
    ("model_id", Listing.optional Text.quoted rule.modelId),
    ("model_id_pattern", Listing.optional Pattern.listing rule.pattern),
    ("parameters", Listing.fields rule.parameters)]

def TemplateFormat.listing : TemplateFormat → String
  | handlebars => "Handlebars"
  | other name => "Other(" ++ Text.quoted name ++ ")"

def Definition.listing (definition : Definition) : String :=
  Listing.record "FunctionDefinition" [
    ("group", Text.quoted definition.group), ("name", Text.quoted definition.name),
    ("description", Text.quoted definition.description),
    ("template", Listing.optional Text.quoted definition.template),
    ("template_format", definition.format.listing),
    ("parameters", Listing.sequence (definition.parameters.map Parameter.listing)),
    ("execution_settings", Listing.sequence (definition.rules.map Rule.listing))]

def FunctionRef.listing (ref : FunctionRef) : String :=
  Listing.record "FunctionRef" [("group", Text.quoted ref.group), ("name", Text.quoted ref.name)]

end PromptKernel
