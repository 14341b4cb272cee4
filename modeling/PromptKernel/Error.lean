/-! What can go wrong, from loading a function to the answer of a backend service. Each cause has a
constructor, and the wording is in one place. -/

namespace PromptKernel

inductive DescriptorFault
  | document
  | missingName
  | missingTemplate (function : String)
  | unnamedVariable (function : String)
  | repeatedVariable (name function : String)
  /-- The pattern cannot be read. -/
  | invalidPattern (source : String)
  /-- A function was defined without a template and is called nevertheless. -/
  | noTemplate (function : String)
deriving DecidableEq, Repr

def DescriptorFault.message : DescriptorFault → String
  | document => ""
  | missingName => "missing field `name`"
  | missingTemplate function => "missing field `template` in function `" ++ function ++ "`"
  | unnamedVariable function => "input variable without a name in function `" ++ function ++ "`"
  | repeatedVariable name function =>
    "input variable `" ++ name ++ "` is declared twice in function `" ++ function ++ "`"
  | invalidPattern _ => "invalid `model_id_pattern`: "
  | noTemplate function => "function `" ++ function ++ "` has no template"

inductive ConfigFault
  | document
  | unsupportedService (kind : String)
  | missingVariable (name : String)
  | unknownDefault (modelId : String)
  | noEntryPoint
deriving DecidableEq, Repr

def ConfigFault.message : ConfigFault → String
  | document => ""
  | unsupportedService kind => "backend service `" ++ kind ++ "` is unsupported"
  | missingVariable name =>
    "fail to read the API key from `" ++ name ++ "`: environment variable not found"
  | unknownDefault modelId => "default service `" ++ modelId ++ "` is not registered"
  | noEntryPoint => "the entry point is not set"

inductive ServiceFault
  /-- The service itself explains it. -/
  | reported (message : String)
  /-- The answer is no completion. -/
  | undecodable
  /-- No answer could be had at all. -/
  | unreachable
deriving DecidableEq, Repr

def ServiceFault.message : ServiceFault → String
  | reported message => message
  | undecodable => ""
  | unreachable => ""

/-- Why a template cannot be rendered, apart from what functions and helpers report themselves. -/
inductive TemplateFault
  | malformed
  | missingArgument (helper : String)
  | invalidArgument (helper : String)
  | invalidIndex (key : String)
  | unknownDecorator (name : String)
  | unknownPartial (name : String)
  /-- Partials include each other without end. -/
  | endlessInclusion
deriving DecidableEq, Repr

inductive NativeFault
  | reported (message : String)
  | unbound (argument : String)
  | invalid (argument : String)
deriving DecidableEq, Repr

def NativeFault.message : NativeFault → String
  | reported message => message
  | unbound argument => "argument `" ++ argument ++ "` is not bound"
  | invalid argument => "invalid argument `" ++ argument ++ "`: "

inductive FileFault
  | notFound
  | isDirectory
  /-- The path leads through a file. -/
  | notDirectory
  | notText
deriving DecidableEq, Repr

inductive Error
  | malformedDescriptor (fault : DescriptorFault)
  | missingRequiredParameter (parameter function : String)
  | missingRole
  | noBackendAvailable
  | backendFailure (modelId : String) (fault : ServiceFault)
  | unknownHelper (name : String)
  | functionNotFound (group name : String)
  | duplicateFunction (group name : String)
  | invalidHelperArguments (helper reason : String)
  | unsupportedFormat (format : String)
  | template (fault : TemplateFault)
  | cancelled
  | native (fault : NativeFault)
  | config (fault : ConfigFault)
  | file (fault : FileFault)
  | endlessCalls
  /-- The failure of a function that was being invoked. -/
  | inFunction (group name : String) (source : Error)
deriving DecidableEq, Repr

namespace Error

/-- The text of the error. Parts that only repeat the words of a document reader or of the engine
are left out. -/
def message : Error → String
  | malformedDescriptor fault => "malformed function descriptor: " ++ fault.message
  | missingRequiredParameter parameter function =>
    "parameter `" ++ parameter ++ "` is required for function `" ++ function ++ "`"
  | missingRole => "message must have a role"
  | noBackendAvailable => "no backend service is available"
  | backendFailure modelId fault => "backend service `" ++ modelId ++ "` failed: " ++ fault.message
  | unknownHelper name => "helper `" ++ name ++ "` is not registered"
  | functionNotFound group name => "function `" ++ group ++ "." ++ name ++ "` is not registered"
  | duplicateFunction group name =>
    "function `" ++ group ++ "." ++ name ++ "` is already registered"
  | invalidHelperArguments helper reason =>
    "invalid arguments for helper `" ++ helper ++ "`: " ++ reason
  | unsupportedFormat format => "unsupported template format `" ++ format ++ "`"
  | template _ => "template error: "
  | cancelled => "invocation cancelled"
  | native fault => "native function failed: " ++ fault.message
  | config fault => "invalid configuration: " ++ fault.message
  | file _ => ""
  | endlessCalls => "functions call each other without end"
  | inFunction group name source =>
    "function `" ++ group ++ "." ++ name ++ "` failed: " ++ source.message

def rootCause : Error → Error
  | inFunction _ _ source => source.rootCause
  | error => error

/-- The functions that were being invoked, the outermost one first. -/
def chain : Error → List (String × String)
  | inFunction group name source => (group, name) :: source.chain
  | _ => []

end Error

end PromptKernel
