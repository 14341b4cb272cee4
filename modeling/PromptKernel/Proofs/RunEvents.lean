import PromptKernel.Proofs.CallAgreement
import PromptKernel.Proofs.HandedErrors

/-! What happens in the course of a run, event by event: which functions are entered and left, which
services are asked, when the run is cancelled, and what goes wrong. The events are listed beside the runs,
step by step along the template, the program or the call, down to the calls that these make. -/

namespace PromptKernel

/-- How a function is entered. -/
inductive Entrance
  | outside
  | template
  | handler
deriving DecidableEq

/-- What the cancellation of a run keeps from happening. -/
inductive Prevented
  | call (function : FunctionRef)
  | completion (completion : Completion)

/-- What goes wrong, other than that an error of somebody else is handed on. -/
inductive Cause
  | engine (fault : EngineFault)
  | helper (name : String) (complaint : Complaint)
  /-- A parameter that a function requires is not supplied. -/
  | unsupplied (parameter function : String)
  | unregistered (function : FunctionRef)
  | noEntryPoint
  /-- Functions call each other too deeply. -/
  | depth
  /-- The template of a function is not of the usual format. -/
  | format (name : String)
  | noTemplate (function : String)
  | noService
  | service (modelId : String) (fault : ServiceFault)
  /-- Handlers may fail with any error. -/
  | handler (error : Error)
  | cancellation (prevented : Prevented)

/-- Each cause has an error of its own type. -/
def Cause.error : Cause → Error
  | engine fault => fault.error
  | helper name complaint => complaint.error name
  | unsupplied parameter function => .missingRequiredParameter parameter function
  | unregistered function => .functionNotFound function.group function.name
  | noEntryPoint => .config .noEntryPoint
  | depth => .endlessCalls
  | format name => .unsupportedFormat name
  | noTemplate function => .malformedDescriptor (.noTemplate function)
  | noService => .noBackendAvailable
  | service modelId fault => .backendFailure modelId fault
  | handler error => error
  | cancellation _ => .cancelled

inductive Event
  | enter (function : FunctionRef) (entrance : Entrance)
  /-- The function returns, with or without an error. -/
  | leave (function : FunctionRef)
  | ask (completion : Completion)
  | cancel
  | raise (cause : Cause)

/-- The events of functions that are entered with their parameters bound. -/
abbrev CallEvents := Entrance → Function → State → List Event

/-- The events of a call, with the arguments if it is made by a template. Parameters are bound first, and
then the run must not be cancelled. -/
def Event.ofCall (calls : CallEvents) (entrance : Entrance) (function : Function)
    (arguments : Option (Fields Json)) (state : State) : List Event :=
  let definition := function.definition
  match definition.missing? arguments state.bindings with
  | some parameter => [.raise (.unsupplied parameter.name definition.name)]
  | none =>
    if state.cancelled then [.raise (.cancellation (.call function.ref))]
    else
      let bindings := Parameter.bindAll definition.ownParameters arguments state.bindings
      calls entrance function { state with bindings }

def Template.Recorder.events (calls : CallEvents) : Recorder Event where
  fault fault := [.raise (.engine fault)]
  complaint name complaint := [.raise (.helper name complaint)]
  assign _ _ := []
  dispatch function arguments state := Event.ofCall calls .template function (some arguments) state

namespace Kernel

/-- What a template function asks of its service once its template is rendered. -/
def completion (definition : Definition) (selection : Selection) (service : Service) (text : String) :
    Completion where
  service := selection.service
  modelId := service.modelId
  turns := Transcript.extract (Transcript.request text)
  parameters := selection.parameters definition.rules

section
variable (kernel : Kernel) (invoke : Invoke) (calls : CallEvents)

def requestEvents (request : Request) (state : State) : List Event :=
  match request with
  | .cancel => [.cancel]
  | .invoke ref _ =>
    match kernel.function ref with
    | .ok function => calls .handler function state
    | .error _ => [.raise (.unregistered ref)]
  | .render source => Template.renderRecord (.events calls) (kernel.host invoke) source state
  | _ => []

/-- The events of a program that has heard of some errors in answers. If it fails with one of them, it
hands that one on. -/
def programEvents (heard : List Error) : Program α → State → List Event
  | .done _, _ => []
  | .fail error, _ => if error ∈ heard then [] else [.raise (.handler error)]
  | .ask request next, state =>
    kernel.requestEvents invoke calls request state ++
      match kernel.answer invoke request state with
      | (.ok reply, after) => programEvents (heard ++ (request.failure? reply).toList) (next reply) after
      | (.error _, _) => []

/-- The events once a template function has a rendering, which it has to complete. -/
def completionEvents (service : Service) (completion : Completion) (state : State) : List Event :=
  if state.cancelled then [.raise (.cancellation (.completion completion))]
  else
    .ask completion ::
      match (service.complete state.completions state.arrived completion).1 with
      | .ok _ => []
      | .error fault => [.raise (.service service.modelId fault)]

/-- The events inside of a function. -/
def functionEvents (function : Function) (state : State) : List Event :=
  match function with
  | .template definition =>
    match definition.format, definition.template, kernel.serviceFor definition with
    | .other name, _, _ => [.raise (.format name)]
    | .handlebars, none, _ => [.raise (.noTemplate definition.name)]
    | .handlebars, some _, .error _ => [.raise .noService]
    | .handlebars, some template, .ok (selection, service) =>
      Template.renderRecord (.events calls) (kernel.host invoke) template state ++
        match Template.render (kernel.host invoke) template state with
        | (.ok text, after) => completionEvents service (completion definition selection service text) after
        | (.error _, _) => []
  | .native definition handler =>
    kernel.programEvents invoke calls [] (handler (definition.boundArguments state.bindings)) state

end

/-- The events of a function that is entered. -/
def callEvents (kernel : Kernel) : Nat → CallEvents
  | 0 => fun _ _ _ => [.raise .depth]
  | depth + 1 => fun entrance function state =>
    .enter function.ref entrance ::
      (kernel.functionEvents (kernel.invokeWithin depth) (kernel.callEvents depth) function state ++
        [.leave function.ref])

/-- The events of a function that is looked up and run from outside. -/
def namedEvents (kernel : Kernel) (depth : Nat) (ref : FunctionRef) (state : State) : List Event :=
  match kernel.function ref with
  | .ok function => Event.ofCall (kernel.callEvents depth) .outside function none state
  | .error _ => [.raise (.unregistered ref)]

end Kernel

/-- What a kernel is asked to do from outside. -/
inductive Task
  | render (source : String)
  /-- Runs a function, which need not be one of the kernel's own. -/
  | run (function : Function)
  | call (ref : FunctionRef)
  | entryPoint

namespace Task

/-- If the task brings a handler of its own along, that makes only requests of those kinds. -/
def AsksOnly (allowed : Request → Prop) : Task → Prop
  | run function => function.AsksOnly allowed
  | render _ | call _ | entryPoint => True

/-- If the task brings a handler of its own along, that hands on errors. -/
def PassesOn : Task → Prop
  | run function => function.PassesOn
  | render _ | call _ | entryPoint => True

def events (kernel : Kernel) (depth : Nat) (task : Task) (state : State) : List Event :=
  match task with
  | render source =>
    Template.renderRecord (.events (kernel.callEvents depth)) (kernel.host (kernel.invokeWithin depth)) source state
  | run function => Event.ofCall (kernel.callEvents depth) .outside function none state
  | call ref => kernel.namedEvents depth ref state
  | entryPoint =>
    match kernel.entryPoint with
    | some ref => kernel.namedEvents depth ref state
    | none => [.raise .noEntryPoint]

end Task

/-- The error at the end of a run, if there is one, and the state after it. -/
def Run.ends (run : Run α) (state : State) : Option Error × State := (failure? (run state).1, (run state).2)

/-- How the task ends when functions call each other at most up to a depth. -/
def Task.ends (kernel : Kernel) (depth : Nat) : Task → State → Option Error × State
  | render source => (Template.render (kernel.host (kernel.invokeWithin depth)) source).ends
  | run function => (kernel.runWithin depth function).ends
  | call ref => (kernel.callWithin depth ref).ends
  | entryPoint =>
    match kernel.entryPoint with
    | some ref => (kernel.callWithin depth ref).ends
    | none => fun state => (some (.config .noEntryPoint), state)

/-- Up to the limit on depths, tasks are what kernels do when they are asked. -/
theorem Task.ends_depthLimit (kernel : Kernel) (task : Task) : task.ends kernel Kernel.depthLimit =
    match task with
    | render source => (kernel.render source).ends
    | run function => (kernel.run function).ends
    | call ref => (kernel.call ref).ends
    | entryPoint => kernel.runEntryPoint.ends := by
  cases task with
  | render _ | run _ | call _ => rfl
  | entryPoint =>
    unfold ends Kernel.runEntryPoint
    cases kernel.entryPoint <;> rfl

/-- Errors of the call are part of the answer, and a fork gives the variables back as they were. -/
theorem Kernel.answer_invoke_apply (kernel : Kernel) (invoke : Invoke) (ref : FunctionRef) (fork : Bool)
    (state : State) : kernel.answer invoke (.invoke ref fork) state =
      match kernel.function ref with
      | .error error => (.ok (.error error), state)
      | .ok function =>
        let (outcome, after) := invoke function state
        (.ok outcome, if fork then { after with bindings := state.bindings } else after) := by
  have called : (Run.ofExcept (kernel.function ref) >>= invoke) state =
      match kernel.function ref with
      | .error error => (.error error, state)
      | .ok function => invoke function state := by
    rw [Run.bind_apply, Run.ofExcept_apply]
    cases kernel.function ref <;> rfl
  change Run.attempt (if fork then Run.forked (Run.ofExcept (kernel.function ref) >>= invoke)
    else Run.ofExcept (kernel.function ref) >>= invoke) state = _
  rw [Run.attempt_apply]
  cases fork with
  | false =>
    change (Except.ok ((Run.ofExcept (kernel.function ref) >>= invoke) state).1, _) = _
    rw [called]
    cases kernel.function ref <;> rfl
  | true =>
    rw [if_pos rfl, Run.forked_apply, called]
    cases kernel.function ref <;> rfl

end PromptKernel
