import PromptKernel.Config.Path
import PromptKernel.Error
import PromptKernel.Function.Definition
import PromptKernel.Service.Chat
import PromptKernel.Toml.Document

/-! Configurations: the services and functions of a kernel, its default service and its entry
point. -/

namespace PromptKernel

structure ServiceConfig where
  kind : String := "openai"
  modelId : String
  baseUrl : Option String := none
  apiKey : Option String := none
  apiKeyVariable : Option String := none
  /-- In seconds. -/
  timeout : Option Nat := none

structure FunctionConfig where
  group : String
  path : String

structure Config where
  defaultService : Option String := none
  entryPoint : Option FunctionRef := none
  services : List ServiceConfig := []
  functions : List FunctionConfig := []
  /-- Where relative paths start. -/
  directory : Option String := none

namespace Config

abbrev Record := Fields Toml

def optional? (read : Toml → Option α) (record : Record) (name : String) : Option (Option α) :=
  match record.get? name with
  | some value => (read value).map some
  | none => some none

def required? (read : Toml → Option α) (record : Record) (name : String) : Option α :=
  (record.get? name).bind read

def list? (read : Toml → Option α) (record : Record) (name : String) : Option (List α) :=
  match record.get? name with
  | some value => value.array?.bind fun items => items.mapM read
  | none => some []

def functionRef? (value : Toml) : Option FunctionRef := do
  let record ← value.record? ["group", "name"]
  let group ← required? Toml.string? record "group"
  let name ← required? Toml.string? record "name"
  return { group, name }

def service? (value : Toml) : Option ServiceConfig := do
  let record ← value.record?
    ["service", "model-id", "base-url", "api-key", "api-key-env", "timeout"]
  let kind ← optional? Toml.string? record "service"
  let modelId ← required? Toml.string? record "model-id"
  let baseUrl ← optional? Toml.string? record "base-url"
  let apiKey ← optional? Toml.string? record "api-key"
  let apiKeyVariable ← optional? Toml.string? record "api-key-env"
  let timeout ← optional? Toml.natural? record "timeout"
  return { kind := kind.getD "openai", modelId, baseUrl, apiKey, apiKeyVariable, timeout }

def function? (value : Toml) : Option FunctionConfig := do
  let record ← value.record? ["group", "path"]
  let group ← required? Toml.string? record "group"
  let path ← required? Toml.string? record "path"
  return { group, path }

def ofRecord? (record : Record) : Option Config := do
  let defaultService ← optional? Toml.string? record "default-service"
  let entryPoint ← optional? functionRef? record "entry-point"
  let services ← list? service? record "service"
  let functions ← list? function? record "function"
  return { defaultService, entryPoint, services, functions }

def ofToml (text : String) : Except Error Config :=
  match (Toml.document? text).bind ofRecord? with
  | some config => .ok config
  | none => .error (.config .document)

def resolve (config : Config) (path : String) : String :=
  match config.directory with
  | some directory => Path.join directory path
  | none => path

end Config

namespace ServiceConfig

/-- The key of the service, which may come from an environment variable. -/
def key (config : ServiceConfig) (environment : Fields String) : Except Error (Option String) :=
  match config.apiKey, config.apiKeyVariable with
  | some key, _ => .ok (some key)
  | none, none => .ok none
  | none, some name =>
    match environment.get? name with
    | some key => .ok (some key)
    | none => .error (.config (.missingVariable name))

/-- The service that the entry describes. There is one kind of service. -/
def build (config : ServiceConfig) (environment : Fields String) : Except Error ChatApi :=
  if config.kind = "openai" then
    (config.key environment).map fun apiKey =>
      ⟨config.modelId, config.baseUrl.getD ChatApi.defaultUrl, apiKey⟩
  else .error (.config (.unsupportedService config.kind))

end ServiceConfig

end PromptKernel
