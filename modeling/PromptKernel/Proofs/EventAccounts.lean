import PromptKernel.Proofs.EventOrder
import PromptKernel.Proofs.TemplateCalls

/-! The events of a run account for it: they heed the cancellation, they hold all that services were asked, and
they explain how the run ends if handlers hand on errors. -/

namespace PromptKernel

/-- The events of a stretch of a run account for the states before and after it and for its end, which they
explain if everyone passes errors on. -/
structure Accounts (passes : Prop) (state : State) (events : List Event) (outcome : Option Error) (after : State) :
    Prop where
  heeds : Heeds state events after
  explains : passes → Explains events outcome

namespace Accounts
variable {passes : Prop} {state middle after : State} {events later : List Event} {outcome : Option Error}

/-- Variables change without events. -/
theorem nil (cancelled : after.cancelled = state.cancelled) (completions : after.completions = state.completions) :
    Accounts passes state [] none after :=
  ⟨.nil cancelled completions, fun _ => Quiet.nil⟩

theorem trans (begun : Accounts passes state events none middle) (rest : Accounts passes middle later outcome after) :
    Accounts passes state (events ++ later) outcome after :=
  ⟨begun.heeds.trans rest.heeds, fun passes => .after (begun.explains passes) (rest.explains passes)⟩

theorem bound {bindings : Fields Json} (rest : Accounts passes { state with bindings } events outcome after) :
    Accounts passes state events outcome after :=
  ⟨⟨rest.heeds.cancelled, rest.heeds.completions, rest.heeds.orderly⟩, rest.explains⟩

theorem restored (bindings : Fields Json) (begun : Accounts passes state events outcome after) :
    Accounts passes state events outcome { after with bindings } :=
  ⟨⟨begun.heeds.cancelled, begun.heeds.completions, begun.heeds.orderly⟩, begun.explains⟩

theorem raise (state : State) (cause : Cause) (justified : ∀ prevented, cause = .cancellation prevented →
    state.cancelled = true) : Accounts passes state [.raise cause] (some cause.error) state :=
  ⟨.raise state cause justified, fun _ => Fails.raise cause⟩

theorem cancel (state : State) : Accounts passes state [.cancel] none { state with cancelled := true } :=
  ⟨.cancel state, fun _ => Quiet.cancel⟩

theorem call {function : FunctionRef} {entrance : Entrance} (allowed : state.cancelled = true → entrance = .handler)
    (inside : Accounts passes state events outcome after) :
    Accounts passes state (.enter function entrance :: (events ++ [.leave function]))
      (outcome.map (.inFunction function.group function.name)) after :=
  ⟨(Heeds.enter state function allowed).trans (inside.heeds.trans (.leave after function)),
    fun passes => Explains.call function entrance (inside.explains passes)⟩

end Accounts

/-- The function goes as its events say, if it is entered as it may be. -/
def Accounted (passes : Prop) (invoke : Kernel.Invoke) (calls : CallEvents) (function : Function) : Prop :=
  ∀ entrance (state : State), (state.cancelled = true → entrance = .handler) →
    Accounts passes state (calls entrance function state) ((invoke function).ends state).1
      ((invoke function).ends state).2

section
variable {passes : Prop} {invoke : Kernel.Invoke} {calls : CallEvents}

/-- Nobody gets into a cancelled run but by a handler. -/
theorem Accounts.ofCall {function : Function} (accounted : Accounted passes invoke calls function)
    (entrance : Entrance) {arguments : Option (Fields Json)} {call : Run Result}
    (called : ∀ state, call state = match function.definition.bind arguments state.bindings with
      | .error error => (.error error, state)
      | .ok bindings =>
        if state.cancelled then (.error .cancelled, { state with bindings })
        else invoke function { state with bindings }) (state : State) :
    Accounts passes state (Event.ofCall calls entrance function arguments state) (call.ends state).1
      (call.ends state).2 := by
  unfold Run.ends Event.ofCall
  rw [called]
  unfold Definition.bind
  dsimp only
  cases function.definition.missing? arguments state.bindings with
  | some parameter =>
    exact raise state (.unsupplied parameter.name function.definition.name) nofun
  | none =>
    dsimp only
    by_cases cancelled : state.cancelled = true
    · rw [if_pos cancelled, if_pos cancelled]
      refine bound (?_ : Accounts passes { state with
        bindings := Parameter.bindAll function.definition.ownParameters arguments state.bindings } _ _ _)
      exact raise _ (.cancellation (.call function.ref)) fun _ _ => cancelled
    · rw [if_neg cancelled, if_neg cancelled]
      exact bound (accounted entrance _ fun impossible => absurd impossible cancelled)

namespace Kernel
variable {kernel : Kernel}

/-- Templates take the events that their single steps have. -/
theorem events_legal (accounted : ∀ function ∈ kernel.functions, Accounted passes invoke calls function) :
    Template.Legal (Accounts passes) (.events calls) (kernel.host invoke) where
  stay _ := .nil rfl rfl
  trans := .trans
  fault state fault := .raise state (.engine fault) nofun
  complaint state name complaint := .raise state (.helper name complaint) nofun
  assign _ _ _ := .nil rfl rfl
  dispatch state function arguments member :=
    .ofCall (accounted function member) .template (Template.Helper.dispatch_apply (kernel.host invoke) function arguments)
      state

section
variable (accounted : ∀ function ∈ kernel.functions, Accounted passes invoke calls function)
include accounted

theorem render_accounts (source : String) (state : State) :
    Accounts passes state (Template.renderRecord (.events calls) (kernel.host invoke) source state)
      ((Template.render (kernel.host invoke) source).ends state).1
      ((Template.render (kernel.host invoke) source).ends state).2 :=
  Template.render_takes (events_legal accounted) source state

/-- Requests are always answered, if only with an error. -/
theorem answer_accounts (request : Request) (state : State) : ∃ answer after,
    kernel.answer invoke request state = (.ok answer, after) ∧
      Accounts passes state (kernel.requestEvents invoke calls request state) (request.failure? answer) after := by
  cases request with
  | get _ | set _ _ | remove _ | bindings | functions | services | isCancelled => exact ⟨_, _, rfl, .nil rfl rfl⟩
  | cancel => exact ⟨_, _, rfl, .cancel state⟩
  | render source => exact ⟨_, _, rfl, render_accounts accounted source state⟩
  | invoke ref fork =>
    have answered := kernel.answer_invoke_apply invoke ref fork state
    cases found : kernel.function ref with
    | error error =>
      rw [found] at answered
      refine ⟨_, _, answered, ?_⟩
      simp only [requestEvents, found]
      obtain rfl := (function_eq_error_iff.mp found).2
      exact .raise state (.unregistered ref) nofun
    | ok function =>
      rw [found] at answered
      refine ⟨_, _, answered, ?_⟩
      simp only [requestEvents, found]
      have called := accounted function (mem_of_function found) .handler state fun _ => rfl
      cases fork with
      | false => exact called
      | true => exact called.restored state.bindings

theorem program_heeds (heard : List Error) (program : Program α) (state : State) :
    Heeds state (kernel.programEvents invoke calls heard program state) (kernel.runProgram invoke program state).2 := by
  induction program generalizing heard state with
  | done value => exact .nil rfl rfl
  | fail error =>
    unfold programEvents
    split
    · exact .nil rfl rfl
    · exact .raise state (.handler error) nofun
  | ask request next ih =>
    obtain ⟨answer, after, answered, begun⟩ := answer_accounts accounted request state
    unfold programEvents runProgram
    rw [Run.bind_apply, answered]
    exact begun.heeds.trans (ih answer _ after)

omit accounted in
/-- Requests that cannot fail do not do more than to cancel the run. -/
theorem winds_of_safe {request : Request} (safe : ∀ answer, request.failure? answer = none) (state : State) :
    ∀ event ∈ kernel.requestEvents invoke calls request state, event.winds = true := by
  cases request with
  | invoke ref fork => cases safe (.error .cancelled)
  | render source => cases safe (.error .cancelled)
  | cancel =>
    intro event member
    obtain rfl := List.mem_singleton.mp member
    rfl
  | _ => exact nofun

/-- A program that has heard of an error and is about to fail with it causes no other one. -/
theorem program_fails {program : Program α} {error : Error} (failing : program.FailsWith error) {heard : List Error}
    (known : error ∈ heard) (state : State) :
    (∀ event ∈ kernel.programEvents invoke calls heard program state, event.winds = true) ∧
      ((kernel.runProgram invoke program).ends state).1 = some error := by
  induction failing generalizing heard state with
  | fail =>
    unfold programEvents
    rw [if_pos known]
    exact ⟨nofun, rfl⟩
  | @ask request next safe _ ih =>
    obtain ⟨answer, after, answered, -⟩ := answer_accounts accounted request state
    unfold programEvents Run.ends runProgram
    rw [Run.bind_apply, answered]
    obtain ⟨winding, ended⟩ := ih answer (List.mem_append_left _ known) after
    refine ⟨fun event member => ?_, ended⟩
    exact (List.mem_append.mp member).elim (winds_of_safe safe state event) (winding event)

theorem program_explains {program : Program α} (passes : passes) (passing : program.PassesOn) (state : State) :
    Explains (kernel.programEvents invoke calls [] program state) ((kernel.runProgram invoke program).ends state).1 := by
  induction passing generalizing state with
  | done => exact Quiet.nil
  | @fail error => exact Fails.raise (.handler error)
  | @ask request next handed _ ih =>
    obtain ⟨answer, after, answered, begun⟩ := answer_accounts accounted request state
    unfold programEvents Run.ends runProgram
    rw [Run.bind_apply, answered]
    have first := begun.explains passes
    dsimp only
    cases failed : request.failure? answer with
    | none =>
      rw [failed] at first
      exact .after first (ih answer failed after)
    | some error =>
      rw [failed] at first
      obtain ⟨winding, ended⟩ := program_fails accounted (handed answer error failed)
        (List.mem_append_right [] (List.mem_singleton_self error)) after
      change Explains _ ((kernel.runProgram invoke (next answer)).ends after).1
      rw [ended]
      exact .before first winding

omit accounted in
/-- What happens once there is a rendering: the service is asked, unless the run is cancelled by then. -/
theorem completion_accounts (passes : Prop) (definition : Definition) (selection : Selection) (service : Service)
    (text : String) (state : State) :
    let completion := completion definition selection service text
    let answer := service.complete state.completions state.arrived completion
    if state.cancelled then
      Accounts passes state (completionEvents service completion state) (some .cancelled) state
    else
      Accounts passes state (completionEvents service completion state)
        (failure? (answer.1.mapError (.backendFailure service.modelId)))
        { state with
          completions := state.completions ++ [completion], arrived := state.arrived ++ answer.2.toList } := by
  intro completion answer
  unfold completionEvents
  by_cases cancelled : state.cancelled = true
  · rw [if_pos cancelled, if_pos cancelled]
    exact .raise state (.cancellation (.completion completion)) fun _ _ => cancelled
  · rw [if_neg cancelled, if_neg cancelled]
    have asked : Heeds state [.ask completion] { state with
        completions := state.completions ++ [completion], arrived := state.arrived ++ answer.2.toList } :=
      .ask (Bool.eq_false_iff.mpr cancelled) completion _
    split
    next reply returned =>
      rw [show answer.1 = .ok reply from returned]
      exact ⟨asked, fun _ => Quiet.ask completion⟩
    next fault returned =>
      rw [show answer.1 = .error fault from returned]
      refine ⟨asked.trans (.raise _ (.service service.modelId fault) nofun), fun _ => ?_⟩
      exact .after (Quiet.ask completion) (.raise (.service service.modelId fault))

theorem template_accounts (definition : Definition) (state : State) :
    Accounts passes state (kernel.functionEvents invoke calls (.template definition) state)
      ((kernel.runTemplate invoke definition).ends state).1 ((kernel.runTemplate invoke definition).ends state).2 := by
  unfold functionEvents Run.ends
  rw [runTemplate_apply]
  unfold templateOf
  dsimp only
  cases definition.format with
  | other name => exact .raise state (.format name) nofun
  | handlebars =>
    cases definition.template with
    | none => exact .raise state (.noTemplate definition.name) nofun
    | some template =>
      rcases served : kernel.serviceFor definition with error | ⟨selection, service⟩
      · obtain ⟨rfl, -⟩ := noBackend_of_serviceFor served
        exact .raise state (.noService) nofun
      · have begun := render_accounts accounted template state
        unfold Run.ends at begun
        dsimp only
        rcases rendered : Template.render (kernel.host invoke) template state with ⟨error | text, after⟩ <;>
          rw [rendered] at begun
        · dsimp only
          rw [List.append_nil]
          exact begun
        · have completed := completion_accounts passes definition selection service text after
          dsimp only at completed ⊢
          split at completed
          next cancelled =>
            rw [if_pos cancelled]
            exact begun.trans completed
          next running =>
            rw [if_neg running, failure?_map]
            exact begun.trans completed

omit accounted in
theorem execute_native_ends (definition : Definition) (handler : Handler) (state : State) :
    (kernel.execute invoke (.native definition handler)).ends state =
      let ended := (kernel.runProgram invoke (handler (definition.boundArguments state.bindings))).ends state
      (ended.1.map (.inFunction definition.group definition.name), ended.2) := by
  unfold Run.ends execute
  dsimp only [Function.definition]
  rw [Run.within_apply, Run.bind_apply, Run.bindings_apply]
  dsimp only
  rw [Run.bind_apply, failure?_mapError]
  rcases kernel.runProgram invoke (handler (definition.boundArguments state.bindings)) state with
    ⟨error | value, after⟩ <;> rfl

/-- The errors of a function name it, and nothing else becomes of what happens inside. -/
theorem execute_accounts {function : Function} (own : passes → function.PassesOn) (state : State) : ∃ inner,
    Accounts passes state (kernel.functionEvents invoke calls function state) inner
      ((kernel.execute invoke function).ends state).2 ∧
    ((kernel.execute invoke function).ends state).1 =
      inner.map (.inFunction function.ref.group function.ref.name) := by
  cases function with
  | template definition =>
    exact ⟨_, template_accounts accounted definition state, failure?_mapError _ _⟩
  | native definition handler =>
    rw [execute_native_ends]
    refine ⟨_, ⟨program_heeds accounted [] _ state, fun passes => ?_⟩, rfl⟩
    exact program_explains accounted passes (own passes _) state

end

theorem invokeWithin_accounts (all : passes → kernel.PassesOn) (depth : Nat) {function : Function}
    (own : passes → function.PassesOn) :
    Accounted passes (kernel.invokeWithin depth) (kernel.callEvents depth) function := by
  induction depth generalizing function with
  | zero => exact fun entrance state _ => .raise state (.depth) nofun
  | succ depth ih =>
    intro entrance state allowed
    obtain ⟨inner, inside, ended⟩ :=
      execute_accounts (fun function member => ih fun passes => all passes function member) own state
    unfold invokeWithin callEvents
    rw [ended]
    exact .call allowed inside

end Kernel

end

namespace Kernel

theorem namedEvents_account (kernel : Kernel) (depth : Nat) (ref : FunctionRef) (state : State) :
    Accounts kernel.PassesOn state (kernel.namedEvents depth ref state) ((kernel.callWithin depth ref).ends state).1
      ((kernel.callWithin depth ref).ends state).2 := by
  unfold namedEvents
  cases found : kernel.function ref with
  | error error =>
    obtain rfl := (function_eq_error_iff.mp found).2
    unfold Run.ends callWithin
    rw [Run.bind_apply, Run.ofExcept_apply, found]
    exact .raise state (.unregistered ref) nofun
  | ok function =>
    rw [callWithin_eq_runWithin found]
    have own : kernel.PassesOn → function.PassesOn := fun all => all function (mem_of_function found)
    exact .ofCall (invokeWithin_accounts id depth own) .outside (kernel.runWithin_apply depth function) state

end Kernel

/-- The events of a task account for it. -/
theorem Task.events_account (kernel : Kernel) (depth : Nat) (task : Task) (state : State) :
    Accounts (kernel.PassesOn ∧ task.PassesOn) state (task.events kernel depth state)
      (task.ends kernel depth state).1 (task.ends kernel depth state).2 := by
  have named (ref : FunctionRef) : Accounts (kernel.PassesOn ∧ True) state (kernel.namedEvents depth ref state)
      ((kernel.callWithin depth ref).ends state).1 ((kernel.callWithin depth ref).ends state).2 := by
    rw [and_true]
    exact kernel.namedEvents_account depth ref state
  cases task with
  | render source =>
    exact Kernel.render_accounts (fun function member => Kernel.invokeWithin_accounts And.left depth
      fun passes => passes.1 function member) source state
  | run function =>
    exact .ofCall (Kernel.invokeWithin_accounts And.left depth And.right) .outside
      (kernel.runWithin_apply depth function) state
  | call ref => exact named ref
  | entryPoint =>
    unfold Task.events Task.ends
    cases kernel.entryPoint with
    | none => exact .raise state (.noEntryPoint) nofun
    | some ref => exact named ref

end PromptKernel
