import PromptKernel.Error
import PromptKernel.Function.Definition
import PromptKernel.Yaml.Schema

/-! Descriptor documents. A document is first read as a record, in which only the form of each
field counts, and the record is then checked and turned into a definition. -/

namespace PromptKernel

structure VariableEntry where
  name : String
  type : Option String := none
  description : Option String := none
  defaultValue : Option Json := none
  required : Bool := false

/-- One entry of the execution settings. All fields but the first two are request parameters. -/
structure SettingsEntry where
  modelId : Option String := none
  pattern : Option String := none
  parameters : Fields Json := []

structure Descriptor where
  name : Option String := none
  description : Option String := none
  template : Option String := none
  format : Option String := none
  inputs : List VariableEntry := []
  settings : List SettingsEntry := []

namespace Descriptor

open Yaml

abbrev Record := List (String × Node)

def optionalText? (record : Record) (name : String) : Option (Option String) := do
  match ← field? record [name] with
  | some node => node.optional? Node.text?
  | none => return none

def list? (record : Record) (name : String) (item? : Node → Option α) : Option (List α) := do
  match ← field? record [name] with
  | some node =>
    match ← node.optional? Node.items? with
    | some items => items.mapM item?
    | none => return []
  | none => return []

/-- The default of a variable, which null leaves out. `depth` is what is left for nesting. -/
def default? (depth : Nat) (record : Record) : Option (Option Json) := do
  match ← field? record ["default", "default_value"] with
  | some node => node.optional? (Node.json? .asText depth)
  | none => return none

def required? (record : Record) : Option Bool := do
  match ← field? record ["required", "is_required"] with
  | some node => node.bool?
  | none => return false

/-- The fields of a variable, where only the name has to be there. -/
def variableFields : List String := ["name", "type", "description", "default", "required"]

def entry? (node : Node) : Option VariableEntry := do
  let record ← node.record? variableFields 1
  let name ← (← field? record ["name"]).bind Node.text?
  return {
    name
    type := ← optionalText? record "type"
    description := ← optionalText? record "description"
    defaultValue := ← default? (depthLimit - 3) record
    required := ← required? record }

def settings? (node : Node) : Option SettingsEntry := do
  let record ← node.members?
  let others := record.filter fun entry => entry.1 != "model_id" && entry.1 != "model_id_pattern"
  let parameters ← others.mapM fun (key, value) =>
    (value.json? .textOnly (depthLimit - 3)).map fun value => (key, value)
  return {
    modelId := ← optionalText? record "model_id"
    pattern := ← optionalText? record "model_id_pattern"
    parameters := Fields.ofList parameters }

/-- The fields of a descriptor. A document without names has the first three at least. -/
def fields : List String :=
  ["name", "description", "template", "template_format", "input_variables", "execution_settings"]

/-- The aliases met in a field of a variable. Fields without a meaning are passed over. -/
def variableHops (name : String) (node : Node) : Nat :=
  match name with
  | "name" | "type" | "description" | "default" | "default_value" | "required" | "is_required" =>
    node.hops
  | _ => 0

def hops (name : String) (node : Node) : Nat :=
  match name with
  | "name" | "description" | "template" | "template_format" | "execution_settings" => node.hops
  | "input_variables" => node.itemHops (Node.fieldHops variableFields variableHops)
  | _ => 0

/-- Aliases that multiply the size of a document more than hundredfold are refused. -/
def expandsWithin (document : Document) : Bool :=
  document.root.fieldHops fields hops ≤ 100 * document.size

def ofDocument? (document : Document) : Option Descriptor := do
  let record ← document.root.record? fields 3
  if expandsWithin document then
    return {
      name := ← optionalText? record "name"
      description := ← optionalText? record "description"
      template := ← optionalText? record "template"
      format := ← optionalText? record "template_format"
      inputs := ← list? record "input_variables" entry?
      settings := ← list? record "execution_settings" settings? }
  else none

def ofText? (text : String) : Option Descriptor := (document? text).bind ofDocument?

def parameter (entry : VariableEntry) : Parameter where
  name := entry.name
  type := .ofDescriptor entry.type
  description := entry.description
  defaultValue := entry.defaultValue
  required := entry.required

/-- The parameters of the variables, in order. Names are not blank and differ from each other. -/
def parameters (function : String) : List Parameter → List VariableEntry →
    Except DescriptorFault (List Parameter)
  | done, [] => .ok done
  | done, entry :: entries =>
    if Text.isBlankText entry.name then .error (.unnamedVariable function)
    else if done.any fun parameter => parameter.name == entry.name then
      .error (.repeatedVariable entry.name function)
    else parameters function (done ++ [parameter entry]) entries

def rule (entry : SettingsEntry) : Except DescriptorFault Rule :=
  match entry.pattern with
  | none => .ok ⟨entry.modelId, none, entry.parameters⟩
  | some source =>
    match Pattern.parse? source with
    | some pattern => .ok ⟨entry.modelId, some pattern, entry.parameters⟩
    | none => .error (.invalidPattern source)

/-- The definition that the record describes. The name comes first, then the template, then the
variables in order and last the patterns in order. -/
def definition (descriptor : Descriptor) (group : String) : Except DescriptorFault Definition := do
  let name ←
    match descriptor.name with
    | some name => if Text.isBlankText name then .error .missingName else pure name
    | none => .error .missingName
  let template ←
    match descriptor.template with
    | some template => pure template
    | none => .error (.missingTemplate name)
  let parameters ← parameters name [] descriptor.inputs
  let rules ← descriptor.settings.mapM rule
  return {
    group, name, description := descriptor.description.getD "", template := some template
    format := .ofText (descriptor.format.getD ""), parameters, rules }

end Descriptor

namespace Definition

def ofYaml (group text : String) : Except Error Definition :=
  match Descriptor.ofText? text with
  | none => .error (.malformedDescriptor .document)
  | some descriptor => (descriptor.definition group).mapError .malformedDescriptor

end Definition

end PromptKernel
