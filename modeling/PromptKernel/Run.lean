import PromptKernel.Service.Basic

/-! Runs of functions and templates. A run works on an environment of variables that all its
functions share, can be cancelled from inside, and leaves a record of what it asked of services.
Effects that happened before an error stay. -/

namespace PromptKernel

structure State where
  bindings : Fields Json := []
  cancelled : Bool := false
  /-- What services were asked, in order. -/
  completions : List Completion := []
  /-- The requests that arrived over a network, in order. -/
  arrived : List Http.Request := []

/-- The environment as a listing, as far as a function can see it. -/
def State.listing (state : State) : String :=
  let data := Listing.record "Mutex" [("data", Listing.fields state.bindings)]
  Listing.openRecord "InvocationContext" [
    ("variables", Listing.record "Variables" [("inner", data)]),
    ("cancelled", Listing.flag state.cancelled)]

abbrev Run := ExceptT Error (StateM State)

namespace Run

def ofExcept : Except Error α → Run α
  | .ok value => pure value
  | .error error => throw error

def bindings : Run (Fields Json) := State.bindings <$> get

def setBindings (bindings : Fields Json) : Run Unit := modify ({ · with bindings })

def lookup (name : String) : Run (Option Json) := return (← bindings).get? name

def insert (name : String) (value : Json) : Run Unit := do
  setBindings ((← bindings).insert name value)

def erase (name : String) : Run Unit := do setBindings ((← bindings).erase name)

def isCancelled : Run Bool := State.cancelled <$> get

def cancel : Run Unit := modify ({ · with cancelled := true })

/-- Fails once the run is cancelled. -/
def checkCancelled : Run Unit := do if ← isCancelled then throw .cancelled

def attempt (run : Run α) : Run (Except Error α) :=
  ExceptT.mk do return .ok (← run.run)

/-- Charges the errors of the run to a function. -/
def within (group name : String) (run : Run α) : Run α :=
  ExceptT.mk do return (← run.run).mapError (.inFunction group name)

/-- Runs on a copy of the variables. -/
def forked (run : Run α) : Run α := fun state =>
  let (outcome, after) := run state
  (outcome, { after with bindings := state.bindings })

def complete (service : Service) (completion : Completion) : Run String := do
  let state ← get
  let (outcome, request) := service.complete state.completions state.arrived completion
  set { state with
    completions := state.completions ++ [completion]
    arrived := state.arrived ++ request.toList }
  match outcome with
  | .ok text => return text
  | .error fault => throw (.backendFailure service.modelId fault)

/-! What each operation does to a state. -/

theorem bind_apply (run : Run α) (next : α → Run β) (state : State) :
    (run >>= next) state = match run state with
      | (.ok value, after) => next value after
      | (.error error, after) => (.error error, after) := by
  change (match run state with | (outcome, after) => (ExceptT.bindCont next outcome : StateM State _) after) = _
  rcases run state with ⟨error | value, after⟩ <;> rfl

theorem get_apply (state : State) : (get : Run State) state = (.ok state, state) := rfl

theorem bindings_apply (state : State) : bindings state = (.ok state.bindings, state) := rfl

theorem ofExcept_apply (outcome : Except Error α) (state : State) : ofExcept outcome state = (outcome, state) := by
  cases outcome <;> rfl

theorem checkCancelled_bind (next : Unit → Run α) (state : State) :
    (checkCancelled >>= next) state = if state.cancelled then (.error .cancelled, state) else next () state := by
  have checked : checkCancelled state = (if state.cancelled then .error .cancelled else .ok (), state) := by
    change (if state.cancelled then throw .cancelled else pure () : Run Unit) state = _
    split <;> rfl
  rw [bind_apply, checked]
  cases state.cancelled <;> rfl

theorem attempt_apply (run : Run α) (state : State) : attempt run state = (.ok (run state).1, (run state).2) := rfl

theorem within_apply (group name : String) (run : Run α) (state : State) :
    within group name run state = ((run state).1.mapError (.inFunction group name), (run state).2) := rfl

theorem forked_apply (run : Run α) (state : State) :
    forked run state = ((run state).1, { (run state).2 with bindings := state.bindings }) := rfl

theorem complete_apply (service : Service) (completion : Completion) (state : State) :
    complete service completion state =
      let answer := service.complete state.completions state.arrived completion
      (answer.1.mapError (.backendFailure service.modelId), { state with
        completions := state.completions ++ [completion], arrived := state.arrived ++ answer.2.toList }) := by
  unfold complete
  rw [bind_apply, get_apply]
  dsimp only
  generalize service.complete state.completions state.arrived completion = answer
  rcases answer with ⟨fault | text, request⟩ <;> rfl

end Run

end PromptKernel
