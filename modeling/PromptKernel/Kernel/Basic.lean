import PromptKernel.Function.Basic
import PromptKernel.Service.Basic
import PromptKernel.Service.Selection

/-! Kernels: functions that can call each other by name, and the services that they run on. -/

namespace PromptKernel

structure Kernel where
  functions : List Function
  services : List Service
  /-- The position of the service for functions whose rules accept none. -/
  defaultService : Option Nat
  entryPoint : Option FunctionRef

namespace Kernel

def function? (kernel : Kernel) (ref : FunctionRef) : Option Function :=
  kernel.functions.find? fun function => function.ref == ref

def function (kernel : Kernel) (ref : FunctionRef) : Except Error Function :=
  match kernel.function? ref with
  | some function => .ok function
  | none => .error (.functionNotFound ref.group ref.name)

def serviceNames (kernel : Kernel) : ServiceNames where
  all := kernel.services.map Service.modelId
  default? := (kernel.defaultService.bind (kernel.services[·]?)).map Service.modelId

/-- The service for a function with these rules. -/
def select? (kernel : Kernel) (rules : List Rule) : Option Selection :=
  PromptKernel.select? (fun rule (service : Service) => rule.accepts service.modelId) rules
    kernel.services kernel.defaultService

def listing (kernel : Kernel) : String :=
  let quoted (names : List String) := Listing.sequence (names.map Text.quoted)
  Listing.record "Kernel" [
    ("functions", quoted (kernel.functions.map fun function => function.ref.qualifiedName)),
    ("services", quoted kernel.serviceNames.all),
    ("default_service", Listing.optional Text.quoted kernel.serviceNames.default?),
    ("entry_point", Listing.optional FunctionRef.listing kernel.entryPoint)]

end Kernel

end PromptKernel
