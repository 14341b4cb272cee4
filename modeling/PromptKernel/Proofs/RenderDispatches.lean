import PromptKernel.Proofs.CallTree

/-! The calls that a template makes. As far as the state of the run can tell, a rendering is a
sequence of changes of variables and calls of functions, so all that services are asked during it
is asked by the functions that it calls. -/

namespace PromptKernel

namespace Template

/-- A function that a template called, with the states that it was entered and left in. -/
structure Dispatch where
  function : Function
  entered : State
  left : State

/-- What the function and those under it asked of services. -/
def Dispatch.requests (dispatch : Dispatch) : List Completion :=
  dispatch.left.completions.drop dispatch.entered.completions.length

/-- The way from one state to another by calls of functions, with changes of variables between
them. No function is entered once the run is cancelled. -/
inductive Dispatches (host : Host) : State → List Dispatch → State → Prop
  | done : Dispatches host state [] state
  | bind (bindings : Fields Json) (rest : Dispatches host { state with bindings } dispatches after) :
      Dispatches host state dispatches after
  | call (member : function ∈ host.functions) (running : state.cancelled = false)
      (rest : Dispatches host (host.invoke function state).2 dispatches after) :
      Dispatches host state (⟨function, state, (host.invoke function state).2⟩ :: dispatches) after

namespace Dispatches
variable {host : Host}

theorem append {before middle after : State} {first second : List Dispatch}
    (begun : Dispatches host before first middle) (rest : Dispatches host middle second after) :
    Dispatches host before (first ++ second) after := by
  induction begun with
  | done => exact rest
  | bind bindings _ ih => exact .bind bindings (ih rest)
  | call member running _ ih => exact .call member running (ih rest)

theorem legal (host : Host) :
    Conduct.Legal (fun _ before _ after => ∃ dispatches, Dispatches host before dispatches after) host where
  stay _ _ := ⟨[], .done⟩
  trans := by
    rintro _ _ _ _ _ _ ⟨first, begun⟩ ⟨second, rest⟩
    exact ⟨first ++ second, begun.append rest⟩
  note _ _ _ _ := ⟨[], .done⟩
  fail _ _ _ _ := ⟨[], .done⟩
  assign _ _ _ _ := ⟨[], .bind _ .done⟩
  refuse _ _ _ _ bindings _ _ _ := ⟨[], .bind bindings .done⟩
  invoke _ _ function _ bindings member _ running :=
    ⟨[⟨function, _, _⟩], .bind bindings (.call member running .done)⟩

theorem completions_eq {before after : State} {dispatches : List Dispatch}
    (calls : ∀ function, Run.Makes State.Records (host.invoke function))
    (steps : Dispatches host before dispatches after) :
    after.completions = before.completions ++ dispatches.flatMap Dispatch.requests := by
  induction steps with
  | done => simp
  | bind bindings rest ih => exact ih
  | @call function state dispatches after member running rest ih =>
    have asked := List.prefix_iff_eq_append.mp (calls function state).completions
    rw [ih, List.flatMap_cons, ← List.append_assoc]
    exact congrArg (· ++ _) asked.symm

end Dispatches

/-- Every rendering goes on by calls of functions, whether it succeeds or not. -/
theorem render_dispatches (host : Host) (source : String) (state : State) :
    ∃ dispatches, Dispatches host state dispatches (render host source state).2 := by
  obtain ⟨_, steps, -⟩ := render_follows (Dispatches.legal host) source state
  exact steps

end Template

end PromptKernel
