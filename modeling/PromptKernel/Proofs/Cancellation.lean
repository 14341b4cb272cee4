import PromptKernel.Proofs.ErrorOrigins
import PromptKernel.Proofs.HostAgreement

/-! Cancelled runs. From the moment of the cancellation on no service is asked, no template calls a
function, and nothing is entered from outside, however deep in the tree of calls. Whatever this keeps
from happening ends the run. -/

namespace PromptKernel

theorem Event.ofCall_of_cancelled {function : Function} {arguments : Option (Fields Json)} {state : State}
    {bindings : Fields Json} (accepted : function.definition.bind arguments state.bindings = .ok bindings)
    (cancelled : state.cancelled = true) (calls : CallEvents) (entrance : Entrance) :
    ofCall calls entrance function arguments state = [.raise (.cancellation (.call function.ref))] := by
  unfold ofCall
  dsimp only
  rw [(Definition.bind_eq_ok_iff.mp accepted).1]
  exact if_pos cancelled

namespace Kernel

/-- What the three checks of a kernel do in a run that is cancelled by the time they are made. -/
structure Stops (kernel : Kernel) (depth : Nat) (state : State) : Prop where
  /-- A template that gets to a call, with arguments that the function accepts, fails there. -/
  dispatch : ∀ function arguments bindings, function.definition.bind (some arguments) state.bindings = .ok bindings →
    Template.Helper.dispatch (kernel.host (kernel.invokeWithin depth)) function arguments state =
      (.error .cancelled, { state with bindings }) ∧
    Event.ofCall (kernel.callEvents depth) .template function (some arguments) state =
      [.raise (.cancellation (.call function.ref))]
  outside : ∀ function bindings, function.definition.bind none state.bindings = .ok bindings →
    kernel.runWithin depth function state = (.error .cancelled, { state with bindings }) ∧
    Event.ofCall (kernel.callEvents depth) .outside function none state =
      [.raise (.cancellation (.call function.ref))]
  /-- The template of a function was rendered up to here, and its service is not asked any more. -/
  completion : ∀ definition template selection service before text, templateOf definition = .ok template →
    kernel.serviceFor definition = .ok (selection, service) →
    Template.render (kernel.host (kernel.invokeWithin depth)) template before = (.ok text, state) →
    kernel.runTemplate (kernel.invokeWithin depth) definition before = (.error .cancelled, state) ∧
    completionEvents service (completion definition selection service text) state =
      [.raise (.cancellation (.completion (completion definition selection service text)))]

theorem stops (kernel : Kernel) (depth : Nat) {state : State} (cancelled : state.cancelled = true) :
    kernel.Stops depth state where
  dispatch function arguments bindings accepted := by
    refine ⟨?_, Event.ofCall_of_cancelled accepted cancelled _ _⟩
    rw [Template.Helper.dispatch_apply, accepted]
    exact if_pos cancelled
  outside function bindings accepted := by
    refine ⟨?_, Event.ofCall_of_cancelled accepted cancelled _ _⟩
    rw [runWithin_apply, accepted]
    exact if_pos cancelled
  completion definition template selection service before text prepared served rendered := by
    refine ⟨?_, if_pos cancelled⟩
    rw [runTemplate_apply, prepared, served]
    dsimp only
    rw [rendered]
    exact if_pos cancelled

end Kernel

end PromptKernel
