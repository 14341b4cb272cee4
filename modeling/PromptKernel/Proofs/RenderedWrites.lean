import PromptKernel.Proofs.RenderRecords
import PromptKernel.Proofs.VariableWrites

/-! What templates write to the variables: the assignments of helpers, and the calls of functions with what
these write. -/

namespace PromptKernel.Template

/-- Writes as what is put on record. Calls that a helper refuses and faults of the engine write nothing. -/
def Recorder.writes (calls : Function → State → List Write) : Recorder Write where
  fault _ := []
  complaint _ _ := []
  assign name value := [.set name value]
  dispatch function arguments state := Write.ofCall calls function (some arguments) state

def renderWrites (calls : Function → State → List Write) (host : Host) (source : String) (state : State) :
    List Write :=
  renderRecord (.writes calls) host source state

/-- What the functions do to the variables when they are called are those writes. -/
abbrev Host.Performs (host : Host) (calls : Function → State → List Write) : Prop :=
  ∀ function ∈ host.functions, (host.invoke function).Performs (calls function)

/-- The writes lead from the variables of the one state to those of the other. -/
def performing : Course Write := fun state writes _ after => Write.replay writes state.bindings = some after.bindings

theorem performing_legal {host : Host} {calls : Function → State → List Write} (performed : host.Performs calls) :
    Legal performing (.writes calls) host where
  stay _ := rfl
  trans := by
    intro state middle after writes later outcome begun rest
    unfold performing at begun rest ⊢
    rw [Write.replay_append, begun]
    exact rest
  fault _ _ := rfl
  complaint _ _ _ := rfl
  assign _ _ _ := rfl
  dispatch state function arguments member :=
    Run.Performs.ofCall (fun state => Helper.dispatch_apply host function arguments state)
      (performed function member) state

theorem render_performs {host : Host} {calls : Function → State → List Write} (performed : host.Performs calls)
    (source : String) : (render host source).Performs (renderWrites calls host source) :=
  render_takes (performing_legal performed) source

end PromptKernel.Template
