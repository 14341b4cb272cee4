import PromptKernel.Proofs.ArgumentBinding
import PromptKernel.Proofs.BuiltKernels
import PromptKernel.Proofs.CallTree

/-! Calls of functions from templates, compared with calls from outside of any template. Where a
template brings arguments along, an outside caller puts them among the variables. -/

namespace PromptKernel.Kernel
open Template (Call Helper Progress)

theorem runWithin_apply (kernel : Kernel) (depth : Nat) (function : Function) (state : State) :
    kernel.runWithin depth function state =
      match function.definition.bind none state.bindings with
      | .error error => (.error error, state)
      | .ok bindings =>
        if state.cancelled then (.error .cancelled, { state with bindings })
        else kernel.invokeWithin depth function { state with bindings } := by
  unfold runWithin
  rw [Run.bind_apply, Run.bindings_apply]
  dsimp only
  rw [Run.bind_apply, Run.ofExcept_apply]
  cases function.definition.bind none state.bindings with
  | error error => rfl
  | ok bindings =>
    exact Run.checkCancelled_bind (fun _ => kernel.invokeWithin depth function) { state with bindings }

theorem callWithin_eq_runWithin {kernel : Kernel} {ref : FunctionRef} {function : Function}
    (found : kernel.function ref = .ok function) (depth : Nat) :
    kernel.callWithin depth ref = kernel.runWithin depth function := by
  funext state
  unfold callWithin
  rw [Run.bind_apply, Run.ofExcept_apply, found]

/-- What a template is left with after a call: the result as the helper hands it on, and a context
that holds the variables as the function left them. -/
def handedOn (outcome : Except Error Result × State) (form : Result → α) (progress : Progress) :
    Except Error (α × Progress) × State :=
  (outcome.1.map fun result => (form result, { progress with renewed := some (.object outcome.2.bindings) }),
    outcome.2)

section
variable {host : Template.Host} {function : Function} {call : Call} {arguments : Fields Json}
  (evaluated : Helper.functionArguments call = .ok arguments) (progress : Progress) (state : State)
include evaluated

theorem callFunction_bind_pure (form : Result → α) :
    (Helper.callFunction host function call >>= fun result => pure (form result)) progress state =
      handedOn (Helper.dispatch host function arguments state) form progress := by
  rw [Template.Render.bind_apply, Helper.callFunction_apply, evaluated]
  dsimp only
  rcases Helper.dispatch host function arguments state with ⟨error | result, after⟩ <;> rfl

theorem write_eq_handedOn : Helper.write host (.function function) call progress state =
    handedOn (Helper.dispatch host function arguments state) Result.text progress := by
  have written : Helper.write host (.function function) call =
      Helper.callFunction host function call >>= fun result => pure result.text := by
    simp only [Result.text_eq_inline]
    rfl
  rw [written, callFunction_bind_pure evaluated]

theorem evaluate_eq_handedOn : Helper.evaluate host (.function function) call progress state =
    handedOn (Helper.dispatch host function arguments state) Result.value progress :=
  callFunction_bind_pure evaluated progress state Result.value

end

variable {builder : Builder} {kernel : Kernel} {function : Function} {arguments : Fields Json}

theorem dispatch_eq_callWithin (built : builder.build = .ok kernel) (member : function ∈ kernel.functions)
    (fits : function.definition.Fits arguments) (depth : Nat) (state : State) :
    Helper.dispatch (kernel.host (kernel.invokeWithin depth)) function arguments state =
      kernel.callWithin depth function.ref { state with bindings := state.bindings.merge arguments } := by
  obtain ⟨-, unrepeated⟩ := Builder.functions_of_build built
  obtain ⟨bound, inside, outside⟩ := Definition.bind_agrees fits state.bindings
  rw [Helper.dispatch_apply, callWithin_eq_runWithin (function_of_mem unrepeated member), runWithin_apply,
    inside, outside]
  rfl

/-- A template calls a function with arguments for its parameters, the required ones among them. In
text and as a subexpression this does what a call from outside does with the variables overwritten by
the arguments. It ends with the same result or the same error, the same variables and the same
requests to services, and writes the result the way it reads on its own. -/
theorem function_helper_agrees (built : builder.build = .ok kernel) (member : function ∈ kernel.functions)
    (fits : function.definition.Fits arguments) (depth : Nat) (state : State) :
    let host := kernel.host (kernel.invokeWithin depth)
    let outcome := kernel.callWithin depth function.ref { state with bindings := state.bindings.merge arguments }
    Helper.dispatch host function arguments state = outcome ∧
      ∀ call progress, Helper.functionArguments call = .ok arguments →
        Helper.write host (.function function) call progress state = handedOn outcome Result.text progress ∧
        Helper.evaluate host (.function function) call progress state = handedOn outcome Result.value progress := by
  intro host outcome
  have same : Helper.dispatch host function arguments state = outcome :=
    dispatch_eq_callWithin built member fits depth state
  refine ⟨same, fun call progress evaluated => ⟨?_, ?_⟩⟩
  · rw [write_eq_handedOn evaluated, same]
  · rw [evaluate_eq_handedOn evaluated, same]

/-- Of its parameters one is declared twice, one has a default, and one is never supplied. -/
def pairing : Function :=
  .native { group := "Text", name := "Pair", parameters := [
    { name := "left", required := true },
    { name := "right", defaultValue := some (.string "after") },
    { name := "left", defaultValue := some .null },
    { name := "host", type := .kernel, required := true }] } fun arguments => .done (.object arguments)

/-- An old variable gives way to the argument, and a default fills in. -/
theorem function_helper_agrees_pairing :
    let kernel : Kernel := ⟨[pairing], [], none, none⟩
    let host := kernel.host (kernel.invokeWithin 1)
    let call : Call := { name := "Text_Pair", params := [], hash := [("left", .value (.string "new"))], blocks := [] }
    let state : State := { bindings := [("left", .string "old")] }
    let outcome := kernel.callWithin 1 pairing.ref { bindings := [("left", .string "new")] }
    ({ functions := [pairing] } : Builder).build = .ok kernel ∧
    pairing.definition.Fits [("left", .string "new")] ∧
    Helper.dispatch host pairing [("left", .string "new")] state = outcome ∧
    Helper.write host (.function pairing) call {} state = handedOn outcome Result.text {} ∧
    outcome.1 = .ok ⟨"Text", "Pair", .object [("left", .string "new"), ("right", .string "after")], none⟩ := by
  intro kernel host call state outcome
  have built : ({ functions := [pairing] } : Builder).build = .ok kernel := rfl
  have fits : pairing.definition.Fits [("left", .string "new")] := ⟨by decide, by decide, by decide⟩
  obtain ⟨dispatched, written⟩ := function_helper_agrees built List.mem_cons_self fits 1 state
  exact ⟨built, fits, dispatched, (written call {} rfl).1, rfl⟩

end PromptKernel.Kernel
