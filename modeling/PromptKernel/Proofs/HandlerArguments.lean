import PromptKernel.Proofs.BindingOutcomes

/-! What handlers find as their arguments. The parameters are bound to variables first, and the arguments are
then read off the variables, by the names that callers supply. No variable of another name gets through, and
each argument has the value that the call, the variables or a default gave it. -/

namespace PromptKernel

namespace Definition
variable {definition : Definition} {name : String}

theorem get?_boundArguments (definition : Definition) (bindings : Fields Json) (name : String) :
    (definition.boundArguments bindings).get? name =
      if definition.declares name = true then bindings.get? name else none := by
  have viewed : definition.boundArguments bindings =
      Fields.ofList ((definition.ownParameters.map (·.name)).filterMap fun name =>
        (bindings.get? name).map fun value => (name, value)) := by
    rw [boundArguments, List.filterMap_map]
    rfl
  rw [viewed, Fields.get?_ofList_filterMap]
  exact if_congr declares_iff.symm rfl rfl

theorem isSome_firstDefault?_iff : (definition.firstDefault? name).isSome = true ↔
    ∃ parameter ∈ definition.parameters, parameter.takes name = true ∧ parameter.defaultValue.isSome = true := by
  simp [firstDefault?, List.findSome?_isSome_iff, and_assoc]

/-- The value that a name of the function has once its parameters are bound. -/
theorem valueBound?_of_declared (declared : definition.declares name = true) (arguments : Option (Fields Json))
    (bindings : Fields Json) : definition.valueBound? arguments bindings name =
      ((arguments.getD Fields.empty).get? name).or ((bindings.get? name).or (definition.firstDefault? name)) := by
  rw [valueBound?, if_pos declared]
  cases arguments <;> rfl

end Definition

namespace Kernel

/-- Calls a function, from a template with the arguments given there or from outside of any template. -/
def enter (kernel : Kernel) (depth : Nat) (function : Function) (arguments : Option (Fields Json)) : Run Result :=
  match arguments with
  | some given => Template.Helper.dispatch (kernel.host (kernel.invokeWithin depth)) function given
  | none => kernel.runWithin depth function

theorem enter_apply (kernel : Kernel) (depth : Nat) (function : Function) (arguments : Option (Fields Json))
    (state : State) : kernel.enter depth function arguments state =
      match function.definition.bind arguments state.bindings with
      | .error error => (.error error, state)
      | .ok bindings =>
        if state.cancelled then (.error .cancelled, { state with bindings })
        else kernel.invokeWithin depth function { state with bindings } := by
  cases arguments with
  | none => exact kernel.runWithin_apply depth function state
  | some given => exact Template.Helper.dispatch_apply _ function given state

/-- The work of a native function whose handler found these arguments. -/
def handle (kernel : Kernel) (depth : Nat) (definition : Definition) (handler : Handler) (arguments : Fields Json) :
    Run Result :=
  Run.within definition.group definition.name do
    return .of definition (← kernel.runProgram (kernel.invokeWithin depth) (handler arguments))

theorem invokeWithin_native (kernel : Kernel) (depth : Nat) (definition : Definition) (handler : Handler)
    (state : State) : kernel.invokeWithin (depth + 1) (.native definition handler) state =
      kernel.handle depth definition handler (definition.boundArguments state.bindings) state := rfl

/-- A native function is entered once its parameters are bound, unless the run is cancelled. Its handler then
finds an argument under just those names that callers supply and that have a value, from the call, from the
variables or from some default, in this order of precedence and with the first default in front. Each argument
is what the variable of that name holds when the handler starts. -/
theorem handler_finds_declared (kernel : Kernel) (depth : Nat) (definition : Definition)
    (arguments : Option (Fields Json)) (state : State) :
    let entered (handler : Handler) := kernel.enter (depth + 1) (.native definition handler) arguments state
    let given := arguments.getD Fields.empty
    match definition.bind arguments state.bindings with
    | .error error => ∀ handler, entered handler = (.error error, state)
    | .ok bound =>
      if state.cancelled then ∀ handler, entered handler = (.error .cancelled, { state with bindings := bound })
      else ∃ found : Fields Json,
        (∀ handler, entered handler = kernel.handle depth definition handler found { state with bindings := bound }) ∧
        (∀ name, name ∈ found.keys ↔ definition.declares name = true ∧
          (name ∈ given.keys ∨ name ∈ state.bindings.keys ∨
            ∃ parameter ∈ definition.parameters, parameter.takes name = true ∧ parameter.defaultValue.isSome = true)) ∧
        ∀ name, definition.declares name = true →
          found.get? name = (given.get? name).or ((state.bindings.get? name).or (definition.firstDefault? name)) ∧
          found.get? name = bound.get? name := by
  intro entered given
  have begun (handler : Handler) := kernel.enter_apply (depth + 1) (.native definition handler) arguments state
  cases accepted : definition.bind arguments state.bindings with
  | error error =>
    intro handler
    simpa only [Function.definition, accepted] using begun handler
  | ok bound =>
    simp only [Function.definition, accepted, invokeWithin_native] at begun
    dsimp only
    split
    next cancelled =>
      intro handler
      exact (begun handler).trans (if_pos cancelled)
    next running =>
      have value (name : String) (declared : definition.declares name = true) :
          (definition.boundArguments bound).get? name = bound.get? name ∧ bound.get? name =
            (given.get? name).or ((state.bindings.get? name).or (definition.firstDefault? name)) := by
        refine ⟨by rw [Definition.get?_boundArguments, if_pos declared], ?_⟩
        rw [Definition.eq_bindAll_of_bind accepted, Definition.get?_bindAll,
          Definition.valueBound?_of_declared declared]
      refine ⟨definition.boundArguments bound, ?_, ?_, ?_⟩
      · intro handler
        exact (begun handler).trans (if_neg running)
      · intro name
        rw [← Fields.has_iff, Fields.has]
        by_cases declared : definition.declares name = true
        · obtain ⟨seen, known⟩ := value name declared
          rw [seen, known, Option.isSome_or, Option.isSome_or, Bool.or_eq_true, Bool.or_eq_true,
            Definition.isSome_firstDefault?_iff, ← Fields.has_iff, ← Fields.has_iff]
          exact (and_iff_right declared).symm
        · rw [Definition.get?_boundArguments, if_neg declared]
          exact iff_of_false Bool.false_ne_true fun both => declared both.1
      · intro name declared
        obtain ⟨seen, known⟩ := value name declared
        exact ⟨seen.trans known, seen⟩

end Kernel

end PromptKernel
