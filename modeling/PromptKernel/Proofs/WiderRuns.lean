import PromptKernel.Kernel.Run
import PromptKernel.Proofs.WiderTemplates

/-! Runs of functions that do not use one variable. Templates that start with the variables as they are
do the same with it and without it, and so does everything that functions ask for. -/

namespace PromptKernel

/-- A text that is read as a template that spares the variable, whose blocks may go through variables that
are assigned meanwhile. -/
def Template.TextSpares (functions : List Function) (name : String) (assigns : Function → String → Prop)
    (free : String → Prop) (source : String) : Prop :=
  ∀ elements, read? source = some elements → ∃ partialScope,
    ElementsSpare ⟨functions, name, assigns, false, partialScope⟩ elements ⟨0, free⟩

section
variable (kernel : Kernel) (name : String) (assigns : Function → String → Prop) (free : String → Prop)

/-- A request that neither uses the variable nor takes all variables together. -/
def Request.Spares : Request → Prop
  | get other => other ≠ name
  | set other _ | remove other => Assignable name free other
  | bindings => False
  | invoke ref fork => fork = true ∨
    ∀ function, kernel.function? ref = some function → ∀ other, assigns function other → free other
  | render source => Template.TextSpares kernel.functions name assigns free source
  | _ => True

def Program.Spares : Program α → Prop
  | done _ => True
  | fail _ => True
  | ask request next => request.Spares kernel name assigns free ∧ ∀ answer, (next answer).Spares

def Function.Spares : Function → Prop
  | template definition => ∀ source, definition.template = some source →
    Template.TextSpares kernel.functions name assigns free source
  | native _ handler => ∀ arguments, (handler arguments).Spares kernel name assigns free

/-- The functions of the kernel do not use the variable, and they assign what they are said to assign. -/
structure Kernel.Spares : Prop where
  binds : ∀ function ∈ kernel.functions, function.definition.Binds name (assigns function)
  functions : ∀ function ∈ kernel.functions, function.Spares kernel name assigns (assigns function)

end

variable {name : String} {value : Json} {free : String → Prop}

/-- Binding parameters, with what goes on with them. -/
theorem Run.Ignores.binding {definition : Definition} (binds : definition.Binds name free)
    (arguments : Option (Fields Json)) {next : Run α} (ignores : next.Ignores name value free) :
    (do
      Run.setBindings (← Run.ofExcept (definition.bind arguments (← Run.bindings)))
      next).Ignores name value free := by
  intro state wider widens
  have assigned (bindings : Fields Json) (state : State) :
      Run.setBindings bindings state = (.ok (), { state with bindings }) := rfl
  rcases definition.bind_widens binds arguments widens.bindings with
    ⟨error, first, second⟩ | ⟨bindings, more, first, second, inside, agree⟩
  · refine ⟨?_, ?_, ?_⟩ <;>
      simp only [Run.bind_apply, Run.bindings_apply, Run.ofExcept_apply, first, second]
    · exact widens
    · exact .refl free state.bindings
  · have parallel := ignores { state with bindings } { wider with bindings := more } { widens with bindings := inside }
    refine ⟨?_, ?_, ?_⟩ <;>
      simp only [Run.bind_apply, Run.bindings_apply, Run.ofExcept_apply, first, second, assigned]
    · exact parallel.outcome
    · exact parallel.widens
    · exact agree.trans parallel.kept

theorem Template.dispatch_ignores {host : Host} {function : Function}
    (binds : function.definition.Binds name free) (called : (host.invoke function).Ignores name value free)
    (arguments : Fields Json) : (Helper.dispatch host function arguments).Ignores name value free :=
  .binding binds _ (.bind .checkCancelled fun _ => called)

/-! Renderings. -/

namespace Template
variable {functions : List Function} {assigns : Function → String → Prop} {invoke : Function → Run Result}
  (calls : ∀ function ∈ functions, ∀ arguments,
    (Helper.dispatch ⟨functions, invoke⟩ function arguments).Ignores name value (assigns function))
include calls

/-- A watch for nothing but the names that may be assigned. -/
def Watch.since (free : String → Prop) (start : Fields Json) : Watch where
  free := free
  kept bindings := Fields.AgreeOutside free start bindings
  stable agree kept := kept.trans agree

omit calls in
/-- While nothing is asked of blocks, two renderings end alike even if they fail. -/
theorem Meets.parallel {twins : Twins} {watch : Watch} (unguarded : twins.guarded = false)
    {outcome otherOutcome : Except Error (α × Progress) × State}
    (met : Meets twins watch (fun _ => Same) outcome otherOutcome) :
    otherOutcome.1.map Prod.fst = outcome.1.map Prod.fst ∧ outcome.2.Widens twins.name twins.value otherOutcome.2 ∧
      watch.kept outcome.2.bindings := by
  cases met with
  | ok agreed after => exact ⟨congrArg Except.ok agreed, after.states, after.kept⟩
  | error same =>
    obtain ⟨failed, after, kept⟩ := same unguarded
    exact ⟨congrArg (Except.map Prod.fst) failed, after, kept⟩

theorem renderTree_ignores {partialScope : String → Scope} {elements : List Element}
    (spare : ElementsSpare ⟨functions, name, assigns, false, partialScope⟩ elements ⟨0, free⟩) :
    (renderTree ⟨functions, invoke⟩ elements).Ignores name value free := by
  intro state wider widens
  let twins : Twins := {
    functions, name, assigns, guarded := false, partialScope, value, invoke
    context := .object state.bindings
    otherContext := .object wider.bindings
    proper := nofun
    calls }
  let watch : Watch := .since free state.bindings
  have alike : Alike twins watch ⟨{}, state⟩ ⟨{}, wider⟩ :=
    ⟨widens, rfl, rfl, .refl free state.bindings, rfl, rfl, rfl, nofun⟩
  have placed : Placed twins watch ⟨0, free⟩ [{}] [{}] :=
    ⟨fun _ member => member, .cons .root .nil, nofun⟩
  have ended := Meets.parallel rfl (renderWithin_twin depthLimit spare placed _ _ alike)
  refine ⟨?_, ?_, ?_⟩ <;> simp only [renderTree_apply]
  · exact ended.1
  · exact ended.2.1
  · exact ended.2.2

theorem render_ignores {source : String} (spares : TextSpares functions name assigns free source) :
    (render ⟨functions, invoke⟩ source).Ignores name value free := by
  cases read : read? source with
  | none =>
    rw [render_of_unreadable read]
    exact .fail _
  | some elements =>
    obtain ⟨partialScope, spare⟩ := spares elements read
    rw [render_of_read? read]
    exact renderTree_ignores calls spare

end Template

/-! Functions. -/

namespace Kernel
variable {kernel : Kernel} {assigns : Function → String → Prop} {invoke : Invoke}

theorem function_mem {ref : FunctionRef} {function : Function} (found : kernel.function? ref = some function) :
    function ∈ kernel.functions := List.mem_of_find?_eq_some found

section
variable (spares : kernel.Spares name assigns)
  (calls : ∀ function ∈ kernel.functions, (invoke function).Ignores name value (assigns function))
include spares calls

theorem render_ignores {source : String} (spared : Template.TextSpares kernel.functions name assigns free source) :
    (Template.render (kernel.host invoke) source).Ignores name value free :=
  Template.render_ignores (fun function member arguments =>
    Template.dispatch_ignores (spares.binds function member) (calls function member) arguments) spared

theorem runTemplate_ignores {definition : Definition} (spared : ∀ source, definition.template = some source →
    Template.TextSpares kernel.functions name assigns free source) :
    (kernel.runTemplate invoke definition).Ignores name value free := by
  refine .ofExcept_bind fun source found => .ofExcept_bind fun selected _ => ?_
  have written : definition.template = some source := by
    unfold templateOf at found
    split at found <;> cases found
    assumption
  exact .bind (render_ignores spares calls (spared source written)) fun rendered =>
    .bind .checkCancelled fun _ => .bind (.complete _ _) fun reply => .pure _

theorem answer_ignores {request : Request} (spared : request.Spares kernel name assigns free) :
    (kernel.answer invoke request).Ignores name value free := by
  cases request with
  | get other => exact .lookup spared
  | set other item =>
    exact .bind (.lookup spared.apart) fun previous => .bind (.insert spared item) fun _ => .pure previous
  | remove other =>
    exact .bind (.lookup spared.apart) fun previous => .bind (.erase spared) fun _ => .pure previous
  | bindings => exact spared.elim
  | functions => exact .pure _
  | services => exact .pure _
  | cancel => exact .cancel
  | isCancelled => exact .isCancelled
  | invoke ref fork =>
    have called {more : String → Prop} (assigned : ∀ function, kernel.function? ref = some function →
        ∀ other, assigns function other → more other) :
        (Run.ofExcept (kernel.function ref) >>= invoke).Ignores name value more := by
      refine .ofExcept_bind fun function found => ?_
      unfold Kernel.function at found
      split at found <;> cases found
      next known => exact (calls function (function_mem known)).mono (assigned function known)
    refine .attempt ?_
    rcases spared with rfl | assigned
    · exact .forked (@called (fun _ => True) fun _ _ _ _ => trivial)
    · cases fork with
      | false => exact called assigned
      | true => exact .forked (called assigned)
  | render source => exact .attempt (render_ignores spares calls spared)

theorem runProgram_ignores {program : Program α} (spared : program.Spares kernel name assigns free) :
    (kernel.runProgram invoke program).Ignores name value free := by
  induction program with
  | done result => exact .pure result
  | fail error => exact .fail error
  | ask request next ih => exact .bind (answer_ignores spares calls spared.1) fun answer => ih answer (spared.2 answer)

theorem execute_ignores {function : Function} (member : function ∈ kernel.functions) :
    (kernel.execute invoke function).Ignores name value (assigns function) := by
  have spared := spares.functions function member
  have binds := spares.binds function member
  refine .within ?_ _ _
  cases function with
  | template definition => exact runTemplate_ignores spares calls spared
  | native definition handler =>
    refine .bindings (fun bindings wider widens => ?_) fun bindings => ?_
    · dsimp only
      rw [show definition.boundArguments wider = definition.boundArguments bindings from
        Definition.boundArguments_widens binds widens]
    · exact .bind (runProgram_ignores spares calls (spared _)) fun result => .pure _

end

/-- However deep functions call each other. -/
theorem invokeWithin_ignores (spares : kernel.Spares name assigns) (depth : Nat) :
    ∀ function ∈ kernel.functions, (kernel.invokeWithin depth function).Ignores name value (assigns function) := by
  induction depth with
  | zero => exact fun _ _ => .fail _
  | succ depth ih => exact fun function member => execute_ignores spares ih member

end Kernel

end PromptKernel
