import PromptKernel.Kernel.Basic
import PromptKernel.Template.Render

/-! Calling the functions of a kernel. A call of a template function renders its template, in which
further functions may be called, and then asks one service for a completion. -/

namespace PromptKernel

namespace Kernel

abbrev Invoke := Function → Run Result

def host (kernel : Kernel) (invoke : Invoke) : Template.Host := ⟨kernel.functions, invoke⟩

/-- The template of a function, which has to be of the usual format. -/
def templateOf (definition : Definition) : Except Error String :=
  match definition.format, definition.template with
  | .other name, _ => .error (.unsupportedFormat name)
  | .handlebars, some template => .ok template
  | .handlebars, none => .error (.malformedDescriptor (.noTemplate definition.name))

def serviceFor (kernel : Kernel) (definition : Definition) : Except Error (Selection × Service) :=
  match kernel.select? definition.rules with
  | none => .error .noBackendAvailable
  | some selection =>
    match kernel.services[selection.service]? with
    | none => .error .noBackendAvailable
    | some service => .ok (selection, service)

/-- Renders the template of a function and has the conversation in it completed. Nothing is
rendered unless there is a template and a service. -/
def runTemplate (kernel : Kernel) (invoke : Invoke) (definition : Definition) : Run Result := do
  let template ← Run.ofExcept (templateOf definition)
  let (selection, service) ← Run.ofExcept (kernel.serviceFor definition)
  let rendered ← Template.render (kernel.host invoke) template
  Run.checkCancelled
  let reply ← Run.complete service {
    service := selection.service
    modelId := service.modelId
    turns := Transcript.extract (Transcript.request rendered)
    parameters := selection.parameters definition.rules }
  return .of definition (.string reply) (some service.modelId)

def answer (kernel : Kernel) (invoke : Invoke) : (request : Request) → Run request.Answer
  | .get name => Run.lookup name
  | .set name value => do
    let previous ← Run.lookup name
    Run.insert name value
    return previous
  | .remove name => do
    let previous ← Run.lookup name
    Run.erase name
    return previous
  | .bindings => Run.bindings
  | .functions => return kernel.functions.map Function.ref
  | .services => return kernel.serviceNames
  | .cancel => Run.cancel
  | .isCancelled => Run.isCancelled
  | .invoke ref fork =>
    let call : Run Result := do invoke (← Run.ofExcept (kernel.function ref))
    Run.attempt (if fork then Run.forked call else call)
  | .render template => Run.attempt (Template.render (kernel.host invoke) template)

def runProgram (kernel : Kernel) (invoke : Invoke) : Program α → Run α
  | .done value => return value
  | .fail error => throw error
  | .ask request next => do
    let reply ← kernel.answer invoke request
    kernel.runProgram invoke (next reply)

/-- Runs a function whose parameters are bound. Its errors name it. -/
def execute (kernel : Kernel) (invoke : Invoke) (function : Function) : Run Result :=
  let definition := function.definition
  Run.within definition.group definition.name <|
    match function with
    | .template definition => kernel.runTemplate invoke definition
    | .native definition handler => do
      let arguments := definition.boundArguments (← Run.bindings)
      return .of definition (← kernel.runProgram invoke (handler arguments))

/-- Functions that call each other up to a depth. -/
def invokeWithin (kernel : Kernel) : Nat → Invoke
  | 0 => fun _ => throw .endlessCalls
  | depth + 1 => kernel.execute (kernel.invokeWithin depth)

def depthLimit : Nat := 10000

def invoke (kernel : Kernel) : Invoke := kernel.invokeWithin depthLimit

/-- Runs a function, which need not be one of the kernel's own, with the variables as they are. -/
def runWithin (kernel : Kernel) (depth : Nat) (function : Function) : Run Result := do
  Run.setBindings (← Run.ofExcept (function.definition.bind none (← Run.bindings)))
  Run.checkCancelled
  kernel.invokeWithin depth function

def callWithin (kernel : Kernel) (depth : Nat) (ref : FunctionRef) : Run Result := do
  kernel.runWithin depth (← Run.ofExcept (kernel.function ref))

def run (kernel : Kernel) : Function → Run Result := kernel.runWithin depthLimit

def call (kernel : Kernel) : FunctionRef → Run Result := kernel.callWithin depthLimit

def runEntryPoint (kernel : Kernel) : Run Result :=
  match kernel.entryPoint with
  | some ref => kernel.call ref
  | none => throw (.config .noEntryPoint)

def render (kernel : Kernel) (template : String) : Run String :=
  Template.render (kernel.host kernel.invoke) template

end Kernel

end PromptKernel
