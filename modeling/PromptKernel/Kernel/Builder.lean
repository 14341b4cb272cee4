import PromptKernel.Config.Files
import PromptKernel.Kernel.Basic

/-! Putting kernels together. -/

namespace PromptKernel

structure Builder where
  functions : List Function := []
  services : List Service := []
  defaultService : Option String := none
  entryPoint : Option FunctionRef := none

namespace Builder

def addFunction (builder : Builder) (function : Function) : Builder :=
  { builder with functions := builder.functions ++ [function] }

def addService (builder : Builder) (service : Service) : Builder :=
  { builder with services := builder.services ++ [service] }

structure Surroundings where
  files : Files
  environment : Fields String
  network : Http.Network

/-- Adds all services of a configuration, then all its functions. -/
def addConfig (builder : Builder) (config : Config) (surroundings : Surroundings) :
    Except Error Builder := do
  let apis ← config.services.mapM fun service => service.build surroundings.environment
  let definitions ← config.functions.mapM fun entry => config.definition surroundings.files entry
  return {
    functions := builder.functions ++ definitions.map .template
    services := builder.services ++ apis.map fun api => .remote api surroundings.network
    defaultService := config.defaultService <|> builder.defaultService
    entryPoint := config.entryPoint <|> builder.entryPoint }

def setDefaultService (builder : Builder) (modelId : String) : Builder :=
  { builder with defaultService := some modelId }

def setEntryPoint (builder : Builder) (ref : FunctionRef) : Builder :=
  { builder with entryPoint := some ref }

/-- What a builder can be told. -/
inductive Call
  | function (function : Function)
  | service (service : Service)
  | defaultService (modelId : String)
  | entryPoint (ref : FunctionRef)
  | config (config : Config) (surroundings : Surroundings)

def perform (builder : Builder) : Call → Except Error Builder
  | .function function => .ok (builder.addFunction function)
  | .service service => .ok (builder.addService service)
  | .defaultService modelId => .ok (builder.setDefaultService modelId)
  | .entryPoint ref => .ok (builder.setEntryPoint ref)
  | .config config surroundings => builder.addConfig config surroundings

/-- Follows calls in order, up to the first configuration that cannot be loaded. -/
def follow (builder : Builder) (calls : List Call) : Except Error Builder := calls.foldlM perform builder

/-- The first function with the name of an earlier one. -/
def duplicate? (seen : List FunctionRef) : List Function → Option FunctionRef
  | [] => none
  | function :: functions =>
    if seen.contains function.ref then some function.ref
    else duplicate? (function.ref :: seen) functions

/-- The position of the default service: the first one of the chosen model, or else the first. -/
def defaultPosition (builder : Builder) : Except Error (Option Nat) :=
  match builder.defaultService with
  | some modelId =>
    match builder.services.findIdx? fun service => service.modelId == modelId with
    | some position => .ok (some position)
    | none => .error (.config (.unknownDefault modelId))
  | none => .ok (if builder.services.isEmpty then none else some 0)

/-- The kernel, unless a function comes twice, the entry point is no function, or there is no
service of the chosen model. -/
def build (builder : Builder) : Except Error Kernel :=
  match duplicate? [] builder.functions with
  | some ref => .error (.duplicateFunction ref.group ref.name)
  | none =>
    match builder.entryPoint.filter fun ref => !builder.functions.any (·.ref == ref) with
    | some ref => .error (.functionNotFound ref.group ref.name)
    | none =>
      builder.defaultPosition.map fun defaultService =>
        ⟨builder.functions, builder.services, defaultService, builder.entryPoint⟩

end Builder

end PromptKernel
