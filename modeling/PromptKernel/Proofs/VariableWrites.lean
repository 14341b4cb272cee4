import PromptKernel.Proofs.ArgumentBinding
import PromptKernel.Proofs.CallTree

/-! What is written to the variables, write by write. A variable is assigned by a template, or a function is
called and its parameters are bound; nothing else writes to the variables unless a handler does. The writes
are listed beside the runs, step by step along the template, the program or the call, and performing them in
order comes to just the variables that the run leaves. -/

namespace PromptKernel

inductive Write
  | set (name : String) (value : Json)
  /-- The parameters of a function that is called, with the arguments if it is called from a template. -/
  | bind (function : Function) (arguments : Option (Fields Json))

namespace Write

/-- The names that may be written to. -/
def Targets (write : Write) (name : String) : Prop :=
  match write with
  | set target _ => target = name
  | bind function _ => ∃ parameter ∈ function.definition.parameters, parameter.injected = false ∧ parameter.name = name

/-- The variables after the write, unless it is one of arguments that are refused. -/
def perform? (write : Write) (bindings : Fields Json) : Option (Fields Json) :=
  match write with
  | set name value => some (bindings.insert name value)
  | bind function arguments => (function.definition.bind arguments bindings).toOption

/-- The variables after all writes. -/
def replay (writes : List Write) (bindings : Fields Json) : Option (Fields Json) :=
  writes.foldlM (fun bindings write => write.perform? bindings) bindings

theorem perform?_bind_eq_some_iff {function : Function} {arguments : Option (Fields Json)}
    {bindings bound : Fields Json} : (bind function arguments).perform? bindings = some bound ↔
      function.definition.bind arguments bindings = .ok bound := by
  unfold perform?
  dsimp only
  cases function.definition.bind arguments bindings <;> simp [Except.toOption]

theorem replay_cons (write : Write) (writes : List Write) (bindings : Fields Json) :
    replay (write :: writes) bindings = (write.perform? bindings).bind (replay writes) := rfl

theorem replay_append (first later : List Write) (bindings : Fields Json) :
    replay (first ++ later) bindings = (replay first bindings).bind (replay later) :=
  List.foldlM_append

end Write

/-! What writes leave alone. -/

namespace Parameter
variable {name : String} {bindings : Fields Json}

theorem bind_eq_self_or_insert (parameter : Parameter) (arguments : Option (Fields Json)) (bindings : Fields Json) :
    parameter.bind arguments bindings = bindings ∨
      ∃ value, parameter.bind arguments bindings = bindings.insert parameter.name value := by
  unfold bind
  split
  · exact .inr ⟨_, rfl⟩
  · split
    · exact .inl rfl
    · split
      · exact .inr ⟨_, rfl⟩
      · exact .inl rfl

theorem get?_bind_of_ne {parameter : Parameter} (unlike : parameter.name ≠ name) (arguments : Option (Fields Json))
    (bindings : Fields Json) : (parameter.bind arguments bindings).get? name = bindings.get? name := by
  rcases parameter.bind_eq_self_or_insert arguments bindings with same | ⟨value, same⟩ <;> rw [same]
  exact Fields.get?_insert_of_ne unlike bindings value

theorem has_bind (held : bindings.has name) (parameter : Parameter) (arguments : Option (Fields Json)) :
    (parameter.bind arguments bindings).has name := by
  rcases parameter.bind_eq_self_or_insert arguments bindings with same | ⟨value, same⟩ <;> rw [same]
  · exact held
  · rw [Fields.has_insert, held, Bool.or_true]

end Parameter

namespace Definition
variable {definition : Definition} {arguments : Option (Fields Json)} {bindings bound : Fields Json}

theorem eq_bindAll_of_bind (accepted : definition.bind arguments bindings = .ok bound) :
    bound = Parameter.bindAll definition.ownParameters arguments bindings := (bind_eq_ok_iff.mp accepted).2

/-- Names that no parameter of a caller's has are left alone, whatever is given for them. -/
theorem get?_of_bind (accepted : definition.bind arguments bindings = .ok bound) {name : String}
    (undeclared : ∀ parameter ∈ definition.parameters, parameter.injected = false → parameter.name ≠ name) :
    bound.get? name = bindings.get? name := by
  obtain rfl := eq_bindAll_of_bind accepted
  have unlike : ∀ parameter ∈ definition.ownParameters, parameter.name ≠ name := by
    intro parameter member
    obtain ⟨member, own⟩ := List.mem_filter.mp member
    exact undeclared parameter member (by simpa using own)
  generalize definition.ownParameters = parameters at unlike
  clear accepted
  induction parameters generalizing bindings with
  | nil => rfl
  | cons parameter parameters ih =>
    rw [Parameter.bindAll_cons, ih fun parameter later => unlike parameter (List.mem_cons_of_mem _ later)]
    exact Parameter.get?_bind_of_ne (unlike parameter List.mem_cons_self) arguments bindings

theorem has_of_bind (accepted : definition.bind arguments bindings = .ok bound) {name : String}
    (held : bindings.has name) : bound.has name := by
  obtain rfl := eq_bindAll_of_bind accepted
  generalize definition.ownParameters = parameters
  clear accepted
  induction parameters generalizing bindings with
  | nil => exact held
  | cons parameter parameters ih => exact ih (Parameter.has_bind held parameter arguments)

end Definition

namespace Write
variable {name : String} {bindings after : Fields Json}

theorem get?_of_perform? {write : Write} (performed : write.perform? bindings = some after)
    (untargeted : ¬write.Targets name) : after.get? name = bindings.get? name := by
  cases write with
  | set target value =>
    cases performed
    exact Fields.get?_insert_of_ne untargeted bindings value
  | bind function arguments =>
    exact Definition.get?_of_bind (perform?_bind_eq_some_iff.mp performed) fun parameter member own same =>
      untargeted ⟨parameter, member, own, same⟩

theorem has_of_perform? {write : Write} (performed : write.perform? bindings = some after)
    (held : bindings.has name) : after.has name := by
  cases write with
  | set target value =>
    cases performed
    rw [Fields.has_insert, held, Bool.or_true]
  | bind function arguments => exact Definition.has_of_bind (perform?_bind_eq_some_iff.mp performed) held

variable {writes : List Write} (replayed : replay writes bindings = some after)
include replayed

/-- A variable that changes or is new is the target of one of the writes. -/
theorem exists_targets_of_replay (changed : after.get? name ≠ bindings.get? name) :
    ∃ write ∈ writes, write.Targets name := by
  induction writes generalizing bindings with
  | nil => cases replayed; exact absurd rfl changed
  | cons write writes ih =>
    rw [replay_cons] at replayed
    obtain ⟨middle, performed, rest⟩ := Option.bind_eq_some_iff.mp replayed
    by_cases targeted : write.Targets name
    · exact ⟨write, List.mem_cons_self, targeted⟩
    · rw [← get?_of_perform? performed targeted] at changed
      obtain ⟨later, member, targets⟩ := ih rest changed
      exact ⟨later, List.mem_cons_of_mem write member, targets⟩

theorem has_of_replay (held : bindings.has name) : after.has name := by
  induction writes generalizing bindings with
  | nil => cases replayed; exact held
  | cons write writes ih =>
    rw [replay_cons] at replayed
    obtain ⟨middle, performed, rest⟩ := Option.bind_eq_some_iff.mp replayed
    exact ih rest (has_of_perform? performed held)

end Write

/-- The writes account for what becomes of the variables. They lead from the old ones to the new ones. No
variable is lost, and only targets change. The calls among the writes are accepted by the time they are made,
and leave alone the names that their functions do not take from callers. -/
structure Write.Account (writes : List Write) (before after : Fields Json) : Prop where
  replayed : replay writes before = some after
  kept : ∀ name, before.has name → after.has name
  targeted : ∀ name, after.get? name ≠ before.get? name → ∃ write ∈ writes, write.Targets name
  accepted : ∀ {earlier function arguments later}, writes = earlier ++ .bind function arguments :: later →
    ∃ reached bound, replay earlier before = some reached ∧ function.definition.bind arguments reached = .ok bound ∧
      ∀ name, (∀ parameter ∈ function.definition.parameters, parameter.injected = false → parameter.name ≠ name) →
        bound.get? name = reached.get? name

theorem Write.Account.of_replay {writes : List Write} {before after : Fields Json}
    (replayed : replay writes before = some after) : Account writes before after where
  replayed := replayed
  kept name held := has_of_replay replayed held
  targeted name changed := exists_targets_of_replay replayed changed
  accepted := by
    rintro earlier function arguments later rfl
    rw [replay_append] at replayed
    obtain ⟨reached, begun, rest⟩ := Option.bind_eq_some_iff.mp replayed
    obtain ⟨bound, performed, -⟩ := Option.bind_eq_some_iff.mp rest
    have accepted := perform?_bind_eq_some_iff.mp performed
    exact ⟨reached, bound, begun, accepted, fun name undeclared => Definition.get?_of_bind accepted undeclared⟩

/-- What a call writes: its parameters if the arguments are accepted, and then what the function writes
unless the run is cancelled. -/
def Write.ofCall (calls : Function → State → List Write) (function : Function) (arguments : Option (Fields Json))
    (state : State) : List Write :=
  match function.definition.bind arguments state.bindings with
  | .error _ => []
  | .ok bindings => .bind function arguments :: if state.cancelled then [] else calls function { state with bindings }

/-- What the run does to the variables are those writes. -/
def Run.Performs (run : Run α) (writes : State → List Write) : Prop :=
  ∀ state, Write.replay (writes state) state.bindings = some (run state).2.bindings

/-- A call binds the parameters and runs the function. -/
theorem Run.Performs.ofCall {function : Function} {arguments : Option (Fields Json)} {invoke : Function → Run Result}
    {calls : Function → State → List Write} {call : Run Result}
    (called : ∀ state, call state = match function.definition.bind arguments state.bindings with
      | .error error => (.error error, state)
      | .ok bindings =>
        if state.cancelled then (.error .cancelled, { state with bindings })
        else invoke function { state with bindings })
    (inside : (invoke function).Performs (calls function)) : call.Performs (Write.ofCall calls function arguments) := by
  intro state
  rw [called, Write.ofCall]
  cases accepted : function.definition.bind arguments state.bindings with
  | error error => rfl
  | ok bindings =>
    dsimp only
    rw [Write.replay_cons, Write.perform?_bind_eq_some_iff.mpr accepted, Option.bind_some]
    split
    · rfl
    · exact inside { state with bindings }

end PromptKernel
