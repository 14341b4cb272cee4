import PromptKernel.Kernel.Run
import PromptKernel.Proofs.RenderLogic

/-! Whole call trees. Functions call each other from templates and from programs to any depth, and
all of it works on one state. A change that every single step makes is made by the whole tree. -/

namespace PromptKernel

/-- How the state after a stretch of a run may differ from the one before. -/
abbrev Change := State → State → Prop

/-- The steps that functions take. A service is asked only while the run is not cancelled. -/
structure Change.Legal (change : Change) : Prop where
  stay : ∀ state, change state state
  trans : ∀ {before middle after}, change before middle → change middle after → change before after
  bind : ∀ (state : State) bindings, change state { state with bindings }
  cancel : ∀ state : State, change state { state with cancelled := true }
  complete : ∀ (state : State) completion request, state.cancelled = false → change state { state with
    completions := state.completions ++ [completion], arrived := state.arrived ++ request }

def Run.Makes (change : Change) (run : Run α) : Prop := ∀ state, change state (run state).2

variable {change : Change}

/-- The change as a conduct of renderings, which leave no trace but the state. -/
theorem Change.Legal.conduct (legal : change.Legal) {host : Template.Host}
    (calls : ∀ function ∈ host.functions, Run.Makes change (host.invoke function)) :
    Template.Conduct.Legal (fun _ before _ after => change before after) host where
  stay _ := legal.stay
  trans := legal.trans
  note _ _ state _ := legal.stay state
  fail _ state _ _ := legal.stay state
  assign _ state _ _ := legal.bind state _
  refuse _ state _ _ bindings _ _ _ := legal.bind state bindings
  invoke _ state function _ bindings member _ _ :=
    legal.trans (legal.bind state bindings) (calls function member { state with bindings })

namespace Run.Makes
variable (legal : change.Legal)
include legal

theorem pure (value : α) : Makes change (pure value : Run α) := legal.stay

theorem fail (error : Error) : Makes change (throw error : Run α) := legal.stay

theorem bind {run : Run α} {next : α → Run β} (first : Makes change run)
    (rest : ∀ value, Makes change (next value)) : Makes change (run >>= next) := by
  intro state
  have begun := first state
  rw [bind_apply]
  rcases done : run state with ⟨error | value, after⟩
  · simpa only [done] using begun
  · exact legal.trans (by simpa only [done] using begun) (rest value after)

theorem ofExcept (outcome : Except Error α) : Makes change (Run.ofExcept outcome) := by
  intro state
  rw [ofExcept_apply]
  exact legal.stay state

omit legal in
theorem within {run : Run α} (group name : String) (inside : Makes change run) :
    Makes change (Run.within group name run) := inside

omit legal in
theorem attempt {run : Run α} (inside : Makes change run) : Makes change (Run.attempt run) := inside

theorem forked {run : Run α} (inside : Makes change run) : Makes change (Run.forked run) :=
  fun state => legal.trans (inside state) (legal.bind _ state.bindings)

theorem render {host : Template.Host}
    (calls : ∀ function ∈ host.functions, Makes change (host.invoke function)) (source : String) :
    Makes change (Template.render host source) := by
  intro state
  obtain ⟨outcome, changed, -⟩ := Template.render_follows (legal.conduct calls) source state
  exact changed

end Run.Makes

namespace Kernel
variable (kernel : Kernel) {invoke : Invoke}

/-- The template and the service are settled before anything is rendered, and a service is asked
only after the rendering. -/
theorem runTemplate_apply (invoke : Invoke) (definition : Definition) (start : State) :
    kernel.runTemplate invoke definition start =
      match templateOf definition, kernel.serviceFor definition with
      | .error error, _ => (.error error, start)
      | .ok _, .error error => (.error error, start)
      | .ok template, .ok (selection, service) =>
        match Template.render (kernel.host invoke) template start with
        | (.error error, after) => (.error error, after)
        | (.ok rendered, after) =>
          if after.cancelled then (.error .cancelled, after)
          else
            let completion : Completion := {
              service := selection.service
              modelId := service.modelId
              turns := Transcript.extract (Transcript.request rendered)
              parameters := selection.parameters definition.rules }
            let answer := service.complete after.completions after.arrived completion
            ((answer.1.mapError (.backendFailure service.modelId)).map fun reply =>
                .of definition (.string reply) (some service.modelId),
              { after with
                completions := after.completions ++ [completion]
                arrived := after.arrived ++ answer.2.toList }) := by
  unfold runTemplate
  rw [Run.bind_apply, Run.ofExcept_apply]
  cases templateOf definition with
  | error error => rfl
  | ok template =>
    dsimp only
    rw [Run.bind_apply, Run.ofExcept_apply]
    rcases kernel.serviceFor definition with error | ⟨selection, service⟩
    · rfl
    · dsimp only
      rw [Run.bind_apply]
      rcases Template.render (kernel.host invoke) template start with ⟨error | rendered, after⟩
      · rfl
      · dsimp only
        rw [Run.checkCancelled_bind]
        split
        · rfl
        · rw [Run.bind_apply, Run.complete_apply]
          dsimp only
          generalize service.complete _ _ _ = answer
          rcases answer with ⟨fault | reply, request⟩ <;> rfl

theorem runTemplate_makes (legal : change.Legal) (calls : ∀ function, Run.Makes change (invoke function))
    (definition : Definition) : Run.Makes change (kernel.runTemplate invoke definition) := by
  intro start
  rw [runTemplate_apply]
  split
  · exact legal.stay start
  · exact legal.stay start
  next template selection service _ _ =>
    have rendered : change start (Template.render (kernel.host invoke) template start).2 :=
      Run.Makes.render legal (fun function _ => calls function) template start
    split
    next error after same => simpa only [same] using rendered
    next text after same =>
      rw [same] at rendered
      split
      · exact rendered
      next running =>
        exact legal.trans rendered (legal.complete after _ _ (Bool.eq_false_iff.mpr running))

theorem answer_makes (legal : change.Legal) (calls : ∀ function, Run.Makes change (invoke function))
    (request : Request) : Run.Makes change (kernel.answer invoke request) := by
  cases request with
  | get name => exact legal.stay
  | set name value => exact fun state => legal.bind state _
  | remove name => exact fun state => legal.bind state _
  | bindings => exact legal.stay
  | functions => exact legal.stay
  | services => exact legal.stay
  | cancel => exact legal.cancel
  | isCancelled => exact legal.stay
  | invoke ref fork =>
    have called : Run.Makes change (Run.ofExcept (kernel.function ref) >>= invoke) :=
      .bind legal (.ofExcept legal _) calls
    cases fork with
    | false => exact .attempt called
    | true => exact .attempt (.forked legal called)
  | render template => exact .attempt (.render legal (fun function _ => calls function) template)

theorem runProgram_makes (legal : change.Legal) (calls : ∀ function, Run.Makes change (invoke function))
    (program : Program α) : Run.Makes change (kernel.runProgram invoke program) := by
  induction program with
  | done value => exact .pure legal value
  | fail error => exact .fail legal error
  | ask request next ih => exact .bind legal (kernel.answer_makes legal calls request) ih

theorem execute_makes (legal : change.Legal) (calls : ∀ function, Run.Makes change (invoke function))
    (function : Function) : Run.Makes change (kernel.execute invoke function) := by
  refine .within _ _ ?_
  cases function with
  | template definition => exact kernel.runTemplate_makes legal calls definition
  | native definition handler =>
    exact .bind legal legal.stay fun bindings =>
      .bind legal (kernel.runProgram_makes legal calls _) fun value => .pure legal _

theorem invokeWithin_makes (legal : change.Legal) (depth : Nat) (function : Function) :
    Run.Makes change (kernel.invokeWithin depth function) := by
  induction depth generalizing function with
  | zero => exact .fail legal _
  | succ depth ih => exact kernel.execute_makes legal ih function

end Kernel

/-! Programs that make requests of some kinds only. -/

/-- Whatever the answers are, every request of the program is one of those. -/
def Program.AsksOnly (allowed : Request → Prop) : Program α → Prop
  | done _ => True
  | fail _ => True
  | ask request next => allowed request ∧ ∀ answer, (next answer).AsksOnly allowed

def Function.AsksOnly (allowed : Request → Prop) : Function → Prop
  | template _ => True
  | native _ handler => ∀ arguments, (handler arguments).AsksOnly allowed

def Kernel.AsksOnly (allowed : Request → Prop) (kernel : Kernel) : Prop :=
  ∀ function ∈ kernel.functions, function.AsksOnly allowed

/-! What was asked of services, and what arrived over a network, is never taken back. -/

structure State.Records (before after : State) : Prop where
  completions : before.completions <+: after.completions
  arrived : before.arrived <+: after.arrived

theorem State.records_legal : Change.Legal State.Records where
  stay _ := ⟨List.prefix_rfl, List.prefix_rfl⟩
  trans first second := ⟨first.completions.trans second.completions, first.arrived.trans second.arrived⟩
  bind _ _ := ⟨List.prefix_rfl, List.prefix_rfl⟩
  cancel _ := ⟨List.prefix_rfl, List.prefix_rfl⟩
  complete _ _ _ _ := ⟨List.prefix_append _ _, List.prefix_append _ _⟩

end PromptKernel
