import PromptKernel.Proofs.CallAgreement
import PromptKernel.Proofs.RenderedWrites
import PromptKernel.Proofs.RunEvents

/-! What becomes of the variables in the course of a run. As long as handlers leave the variables to
templates and calls, whatever is done to them is listed: assignments, and the parameters of functions that
are called with arguments that they accept. All other names keep their values, and no name is lost. -/

namespace PromptKernel

/-- Requests by which a handler does not write to the variables itself. -/
def Request.LeavesVariables : Request → Prop
  | .set _ _ | .remove _ => False
  | _ => True

/-! The writes of programs, calls and tasks. -/

namespace Kernel

section
variable (kernel : Kernel) (invoke : Invoke) (calls : Function → State → List Write)

/-- The writes of a request. In a fork a function works on variables of its own. -/
def requestWrites (request : Request) (state : State) : List Write :=
  match request with
  | .invoke ref false =>
    match kernel.function ref with
    | .ok function => calls function state
    | .error _ => []
  | .render source => Template.renderWrites calls (kernel.host invoke) source state
  | _ => []

def programWrites : Program α → State → List Write
  | .done _, _ | .fail _, _ => []
  | .ask request next, state =>
    kernel.requestWrites invoke calls request state ++
      match kernel.answer invoke request state with
      | (.ok reply, after) => programWrites (next reply) after
      | (.error _, _) => []

def functionWrites (function : Function) (state : State) : List Write :=
  match function with
  | .template definition =>
    match templateOf definition, kernel.serviceFor definition with
    | .ok template, .ok _ => Template.renderWrites calls (kernel.host invoke) template state
    | _, _ => []
  | .native definition handler =>
    kernel.programWrites invoke calls (handler (definition.boundArguments state.bindings)) state

end

/-- The writes of a function whose parameters are bound. -/
def callWrites (kernel : Kernel) : Nat → Function → State → List Write
  | 0 => fun _ _ => []
  | depth + 1 => kernel.functionWrites (kernel.invokeWithin depth) (kernel.callWrites depth)

/-- The writes of a function that is looked up and run from outside. -/
def namedWrites (kernel : Kernel) (depth : Nat) (ref : FunctionRef) (state : State) : List Write :=
  match kernel.function ref with
  | .ok function => Write.ofCall (kernel.callWrites depth) function none state
  | .error _ => []

end Kernel

def Task.writes (kernel : Kernel) (depth : Nat) (task : Task) (state : State) : List Write :=
  match task with
  | render source =>
    Template.renderWrites (kernel.callWrites depth) (kernel.host (kernel.invokeWithin depth)) source state
  | run function => Write.ofCall (kernel.callWrites depth) function none state
  | call ref => kernel.namedWrites depth ref state
  | entryPoint =>
    match kernel.entryPoint with
    | some ref => kernel.namedWrites depth ref state
    | none => []

/-! Performing them. -/

namespace Kernel

section
variable {kernel : Kernel} {invoke : Invoke} {calls : Function → State → List Write}
  (leaving : kernel.AsksOnly Request.LeavesVariables)

section
variable (performed : ∀ function, function.AsksOnly Request.LeavesVariables →
    (invoke function).Performs (calls function))
include leaving performed

theorem render_performs (source : String) : (Template.render (kernel.host invoke) source).Performs
    (Template.renderWrites calls (kernel.host invoke) source) :=
  Template.render_performs (fun function member => performed function (leaving function member)) source

theorem answer_performs {request : Request} (leaves : request.LeavesVariables) :
    (kernel.answer invoke request).Performs (kernel.requestWrites invoke calls request) := by
  cases request with
  | get _ | bindings | functions | services | cancel | isCancelled => exact fun _ => rfl
  | set _ _ | remove _ => cases leaves
  | render source => exact render_performs leaving performed source
  | invoke ref fork =>
    intro state
    rw [answer_invoke_apply]
    cases found : kernel.function ref with
    | error error => cases fork <;> simp only [requestWrites, found] <;> rfl
    | ok function =>
      have member : function ∈ kernel.functions := mem_of_function found
      cases fork with
      -- The caller gets its variables back, whatever was written to the copy.
      | true => rfl
      | false =>
        simp only [requestWrites, found]
        exact performed function (leaving function member) state

theorem program_performs {program : Program α} (leaves : program.AsksOnly Request.LeavesVariables) :
    (kernel.runProgram invoke program).Performs (kernel.programWrites invoke calls program) := by
  induction program with
  | done value => exact fun _ => rfl
  | fail error => exact fun _ => rfl
  | ask request next ih =>
    intro state
    obtain ⟨leaves, rest⟩ := leaves
    have asked := answer_performs leaving performed leaves state
    rw [runProgram, programWrites, Run.bind_apply, Write.replay_append, asked]
    rcases kernel.answer invoke request state with ⟨error | reply, after⟩
    · rfl
    · exact ih reply (rest reply) after

theorem execute_performs {function : Function} (leaves : function.AsksOnly Request.LeavesVariables) :
    (kernel.execute invoke function).Performs (kernel.functionWrites invoke calls function) := by
  intro state
  cases function with
  | template definition =>
    unfold functionWrites execute
    dsimp only
    rw [Run.within_apply, runTemplate_apply]
    cases prepared : templateOf definition with
    | error error => rfl
    | ok template =>
      rcases kernel.serviceFor definition with error | ⟨selection, service⟩
      · rfl
      · dsimp only
        rw [render_performs leaving performed template state]
        rcases Template.render (kernel.host invoke) template state with ⟨error | text, after⟩
        · rfl
        · dsimp only
          split <;> rfl
  | native definition handler =>
    unfold functionWrites execute
    dsimp only
    rw [Run.within_apply, Run.bind_apply, Run.bindings_apply]
    dsimp only
    rw [Run.bind_apply, program_performs leaving performed (leaves _) state]
    rcases kernel.runProgram invoke (handler (definition.boundArguments state.bindings)) state with
      ⟨error | value, after⟩ <;> rfl

end

include leaving

theorem invokeWithin_performs (depth : Nat) {function : Function} (leaves : function.AsksOnly Request.LeavesVariables) :
    (kernel.invokeWithin depth function).Performs (kernel.callWrites depth function) := by
  induction depth generalizing function with
  | zero => exact fun _ => rfl
  | succ depth ih => exact execute_performs leaving (fun function leaves => ih leaves) leaves

theorem runWithin_performs (depth : Nat) {function : Function} (leaves : function.AsksOnly Request.LeavesVariables) :
    (kernel.runWithin depth function).Performs (Write.ofCall (kernel.callWrites depth) function none) :=
  .ofCall (kernel.runWithin_apply depth function) (invokeWithin_performs leaving depth leaves)

theorem callWithin_performs (depth : Nat) (ref : FunctionRef) :
    (kernel.callWithin depth ref).Performs (kernel.namedWrites depth ref) := by
  intro state
  unfold namedWrites
  cases found : kernel.function ref with
  | error error =>
    unfold callWithin
    rw [Run.bind_apply, Run.ofExcept_apply, found]
    rfl
  | ok function =>
    rw [callWithin_eq_runWithin found]
    exact runWithin_performs leaving depth (leaving function (mem_of_function found)) state

theorem task_performs (depth : Nat) {task : Task} (leaves : task.AsksOnly Request.LeavesVariables) (state : State) :
    Write.replay (task.writes kernel depth state) state.bindings =
      some (task.ends kernel depth state).2.bindings := by
  cases task with
  | render source =>
    exact render_performs leaving (fun function leaves => invokeWithin_performs leaving depth leaves) source state
  | run function => exact runWithin_performs leaving depth leaves state
  | call ref => exact callWithin_performs leaving depth ref state
  | entryPoint =>
    unfold Task.writes Task.ends
    cases kernel.entryPoint with
    | none => rfl
    | some ref => exact callWithin_performs leaving depth ref state

end

/-- A run of a task, or of a function that a handler calls, in a kernel whose handlers leave the variables
alone. However it ends, what became of the variables is accounted for by the assignments in it and by the
calls that were accepted. A call whose arguments are refused changes nothing. -/
theorem variables_accounted (kernel : Kernel) (leaving : kernel.AsksOnly Request.LeavesVariables) (depth : Nat) :
    (∀ task : Task, task.AsksOnly Request.LeavesVariables → ∀ state,
      Write.Account (task.writes kernel depth state) state.bindings (task.ends kernel depth state).2.bindings) ∧
    (∀ function : Function, function.AsksOnly Request.LeavesVariables → ∀ state,
      Write.Account (kernel.callWrites depth function state) state.bindings
        (kernel.invokeWithin depth function state).2.bindings) ∧
    ∀ (function : Function) (state : State) (error : Error),
      (∀ arguments, function.definition.bind (some arguments) state.bindings = .error error →
        Template.Helper.dispatch (kernel.host (kernel.invokeWithin depth)) function arguments state =
          (.error error, state)) ∧
      (function.definition.bind none state.bindings = .error error →
        kernel.runWithin depth function state = (.error error, state)) := by
  refine ⟨fun task leaves state => .of_replay (task_performs leaving depth leaves state),
    fun function leaves state => .of_replay (invokeWithin_performs leaving depth leaves state),
    fun function state error => ⟨fun arguments refused => ?_, fun refused => ?_⟩⟩
  · rw [Template.Helper.dispatch_apply, refused]
  · rw [runWithin_apply, refused]

/-- Has a parameter that callers have to supply, one that they may supply, and one that they never do. -/
def filing : Function :=
  .native { group := "T", name := "f", parameters := [
    { name := "a", required := true },
    { name := "b", defaultValue := some .null },
    { name := "k", type := .kernel }] } fun _ => .done .null

theorem read?_filing : Template.read? "\x7b\x7bT_f a=1 k=2 z=3\x7d\x7d\x7b\x7bT_f\x7d\x7d" = some [
    .output ⟨.name "T_f", [],
      [("a", .literal (.integer 1)), ("k", .literal (.integer 2)), ("z", .literal (.integer 3))]⟩,
    .output ⟨.path (.steps "T_f" [.key "T_f"]), [], []⟩] := by
  rw [Template.read?_of_expand "\x7b\x7bT_f a=1 k=2 z=3\x7d\x7d\x7b\x7bT_f\x7d\x7d" (by decide +kernel)]
  simp only [String.reduceToList]
  rfl

/-- Of the arguments of the first call one is for a parameter that callers supply. The second call lacks it. -/
theorem variables_accounted_filing :
    let kernel : Kernel := ⟨[filing], [], none, none⟩
    let task : Task := .render "\x7b\x7bT_f a=1 k=2 z=3\x7d\x7d\x7b\x7bT_f\x7d\x7d"
    let start : State := { bindings := [("k", .string "mine")] }
    let arguments : Fields Json := [("a", .integer 1), ("k", .integer 2), ("z", .integer 3)]
    kernel.AsksOnly Request.LeavesVariables ∧
    task.writes kernel 1 start = [.bind filing (some arguments)] ∧
    (task.ends kernel 1 start).2.bindings = [("a", .integer 1), ("b", .null), ("k", .string "mine")] := by
  intro kernel task start arguments
  have leaving : kernel.AsksOnly Request.LeavesVariables := by
    rintro function (_ | ⟨_, ⟨⟩⟩)
    exact fun _ => trivial
  have written : task.writes kernel 1 start = [.bind filing (some arguments)] := by
    dsimp only [task, Task.writes, Template.renderWrites, Template.renderRecord]
    rw [read?_filing]
    rfl
  have account := (variables_accounted kernel leaving 1).1 task trivial start
  rw [written] at account
  have replayed : Write.replay [.bind filing (some arguments)] start.bindings =
    some [("a", .integer 1), ("b", .null), ("k", .string "mine")] := rfl
  exact ⟨leaving, written, Option.some.inj (account.replayed.symm.trans replayed)⟩

end Kernel

end PromptKernel
