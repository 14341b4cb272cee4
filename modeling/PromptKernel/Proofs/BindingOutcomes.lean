import PromptKernel.Proofs.CallAgreement
import PromptKernel.Proofs.VariableWrites

/-! What binding the parameters of a function comes to. Names may be declared more than once, and some
parameters are never supplied by callers. Parameters are checked first and then bound one after another,
each with what the ones before it left behind, and still every variable gets its value by one rule. -/

namespace PromptKernel
variable {arguments : Option (Fields Json)} {bindings : Fields Json} {name : String}

namespace Parameter

/-- Callers supply the parameter under this name. -/
def takes (parameter : Parameter) (name : String) : Bool := !parameter.injected && parameter.name == name

/-- The parameter has to be supplied and is not. A call that brings arguments along has to bring this one.
A call without any lacks a variable, and this parameter has no default. -/
def IsMissing (parameter : Parameter) (arguments : Option (Fields Json)) (bindings : Fields Json) : Prop :=
  parameter.injected = false ∧ parameter.required = true ∧
    match arguments with
    | some arguments => parameter.name ∉ arguments.keys
    | none => parameter.name ∉ bindings.keys ∧ parameter.defaultValue = none

theorem isMissing_iff {parameter : Parameter} : parameter.IsMissing arguments bindings ↔
    (!parameter.injected) = true ∧ (parameter.required && !parameter.isSupplied arguments bindings) = true := by
  cases arguments with
  | none => simp [IsMissing, isSupplied, ← Fields.has_iff]
  | some arguments => simp [IsMissing, isSupplied, ← Fields.has_iff]

/-- An argument comes before the value that is there, and this value before the default. -/
theorem get?_bind (parameter : Parameter) (arguments : Option (Fields Json)) (bindings : Fields Json) :
    (parameter.bind arguments bindings).get? parameter.name =
      (arguments.bind (·.get? parameter.name)).or ((bindings.get? parameter.name).or parameter.defaultValue) := by
  unfold bind
  split
  next value given => simp [given]
  next absent =>
    cases held : bindings.get? parameter.name with
    | some value => simp [Fields.has, held, absent]
    | none => cases fallback : parameter.defaultValue <;> simp [Fields.has, held, absent]

end Parameter

namespace Definition

def declares (definition : Definition) (name : String) : Bool := definition.parameters.any (·.takes name)

theorem declares_iff {definition : Definition} :
    definition.declares name = true ↔ name ∈ definition.ownParameters.map (·.name) := by
  simp [declares, ownParameters, Parameter.takes, and_assoc]

def firstDefault? (definition : Definition) (name : String) : Option Json :=
  (definition.parameters.filter (·.takes name)).findSome? (·.defaultValue)

/-- The value of a variable once the parameters are bound. Arguments count for names that callers supply. -/
def valueBound? (definition : Definition) (arguments : Option (Fields Json)) (bindings : Fields Json)
    (name : String) : Option Json :=
  (if definition.declares name then arguments.bind (·.get? name) else none).or
    ((bindings.get? name).or (definition.firstDefault? name))

theorem get?_bindAll (definition : Definition) (arguments : Option (Fields Json)) (bindings : Fields Json)
    (name : String) : (Parameter.bindAll definition.ownParameters arguments bindings).get? name =
      definition.valueBound? arguments bindings name := by
  unfold valueBound? declares firstDefault? ownParameters
  generalize definition.parameters = parameters
  induction parameters generalizing bindings with
  | nil => simp
  | cons parameter parameters ih =>
    by_cases injected : parameter.injected = true
    · simpa [injected, Parameter.takes] using ih bindings
    · rw [List.filter_cons_of_pos (by simp [injected]), Parameter.bindAll_cons, ih]
      by_cases same : parameter.name = name
      · subst same
        have taken : parameter.takes parameter.name = true := by simp [Parameter.takes, injected]
        rw [Parameter.get?_bind]
        simp only [List.any_cons, List.filter_cons, taken, Bool.true_or, if_true]
        -- Parameters of one name ask for one argument, so the first of them leaves nothing for the others to do.
        cases given : arguments.bind (·.get? parameter.name) with
        | some value => by_cases later : parameters.any (·.takes parameter.name) = true <;> simp [later]
        | none => cases fallback : parameter.defaultValue <;> simp [fallback]
      · have passed : parameter.takes name = false := by simp [Parameter.takes, same]
        rw [Parameter.get?_bind_of_ne same]
        simp [passed]

theorem valueBound?_of_undeclared {definition : Definition} (undeclared : definition.declares name = false) :
    definition.valueBound? arguments bindings name = bindings.get? name := by
  have others : definition.parameters.filter (·.takes name) = [] := by
    apply List.filter_eq_nil_iff.mpr
    exact List.any_eq_false.mp undeclared
  simp [valueBound?, undeclared, firstDefault?, others]

theorem missing?_eq_some_iff {definition : Definition} {parameter : Parameter} :
    definition.missing? arguments bindings = some parameter ↔
      ∃ before behind, definition.parameters = before ++ parameter :: behind ∧
        parameter.IsMissing arguments bindings ∧ ∀ earlier ∈ before, ¬earlier.IsMissing arguments bindings := by
  unfold missing? ownParameters
  simp only [List.find?_filter, List.find?_eq_some_iff_append, Parameter.isMissing_iff, Bool.not_eq_true',
    decide_eq_true_eq, decide_eq_false_iff_not]
  constructor
  · rintro ⟨missing, before, behind, split, earlier⟩
    exact ⟨before, behind, split, missing, earlier⟩
  · rintro ⟨before, behind, split, missing, earlier⟩
    exact ⟨missing, before, behind, split, earlier⟩

end Definition

/-- Binds the parameters of a function in the environment of a run. -/
def Run.bindParameters (definition : Definition) (arguments : Option (Fields Json)) : Run Unit := do
  setBindings (← ofExcept (definition.bind arguments (← Run.bindings)))

theorem Run.bindParameters_apply (definition : Definition) (arguments : Option (Fields Json)) (state : State) :
    bindParameters definition arguments state = match definition.bind arguments state.bindings with
      | .error error => (.error error, state)
      | .ok bindings => (.ok (), { state with bindings }) := by
  unfold bindParameters
  rw [bind_apply, bindings_apply]
  dsimp only
  rw [bind_apply, ofExcept_apply]
  cases definition.bind arguments state.bindings <;> rfl

theorem Template.Helper.dispatch_eq (host : Host) (function : Function) (given : Fields Json) :
    dispatch host function given = (do
      Run.bindParameters function.definition (some given)
      Run.checkCancelled
      host.invoke function) := by
  funext state
  rw [dispatch_apply, Run.bind_apply, Run.bindParameters_apply]
  cases function.definition.bind (some given) state.bindings with
  | error error => rfl
  | ok bindings => exact (Run.checkCancelled_bind (fun _ => host.invoke function) { state with bindings }).symm

theorem Kernel.runWithin_eq (kernel : Kernel) (depth : Nat) (function : Function) :
    kernel.runWithin depth function = (do
      Run.bindParameters function.definition none
      Run.checkCancelled
      kernel.invokeWithin depth function) := by
  funext state
  rw [runWithin_apply, Run.bind_apply, Run.bindParameters_apply]
  cases function.definition.bind none state.bindings with
  | error error => rfl
  | ok bindings =>
    exact (Run.checkCancelled_bind (fun _ => kernel.invokeWithin depth function) { state with bindings }).symm

/-- Every call binds the parameters of its function first. It is refused for the first parameter in the order
of declaration that is missing, with everything left as it was, and only for such a parameter. Otherwise each
variable has its value by the one rule, and nothing else has changed. What callers do not supply is not bound,
whatever they give for it. -/
theorem parameters_bound (function : Function) (arguments : Option (Fields Json)) (state : State) :
    let definition := function.definition
    (match Run.bindParameters definition arguments state with
      | (.error error, after) =>
        after = state ∧ ∃ before parameter behind, definition.parameters = before ++ parameter :: behind ∧
          parameter.IsMissing arguments state.bindings ∧
          (∀ earlier ∈ before, ¬earlier.IsMissing arguments state.bindings) ∧
          error = .missingRequiredParameter parameter.name definition.name
      | (.ok _, after) =>
        (∀ parameter ∈ definition.parameters, ¬parameter.IsMissing arguments state.bindings) ∧
        after = { state with bindings := after.bindings } ∧
        ∀ name, after.bindings.get? name = definition.valueBound? arguments state.bindings name ∧
          (definition.declares name = false → after.bindings.get? name = state.bindings.get? name)) ∧
    (∀ host given, Template.Helper.dispatch host function given = (do
      Run.bindParameters definition (some given)
      Run.checkCancelled
      host.invoke function)) ∧
    ∀ (kernel : Kernel) depth, kernel.runWithin depth function = (do
      Run.bindParameters definition none
      Run.checkCancelled
      kernel.invokeWithin depth function) := by
  intro definition
  refine ⟨?_, fun host given => Template.Helper.dispatch_eq host function given,
    fun kernel depth => kernel.runWithin_eq depth function⟩
  rw [Run.bindParameters_apply, Definition.bind]
  cases missing : definition.missing? arguments state.bindings with
  | some parameter =>
    obtain ⟨before, behind, declared, lacks, earlier⟩ := Definition.missing?_eq_some_iff.mp missing
    exact ⟨rfl, before, parameter, behind, declared, lacks, earlier, rfl⟩
  | none =>
    refine ⟨?_, rfl, ?_⟩
    · intro parameter member lacks
      have supplied := List.find?_eq_none.mp missing parameter
      obtain ⟨own, asked⟩ := Parameter.isMissing_iff.mp lacks
      exact supplied (List.mem_filter.mpr ⟨member, own⟩) asked
    · intro name
      have value := definition.get?_bindAll arguments state.bindings name
      refine ⟨value, ?_⟩
      intro undeclared
      exact value.trans (Definition.valueBound?_of_undeclared undeclared)

/-- Two names are declared twice, the second one with null for its first default. -/
def layering : Function :=
  .native { group := "T", name := "f", parameters := [
    { name := "a", required := true },
    { name := "a", defaultValue := some (.integer 1) },
    { name := "b", defaultValue := some .null },
    { name := "b", defaultValue := some (.integer 2) },
    { name := "c", defaultValue := some (.integer 3) },
    { name := "k", type := .kernel, defaultValue := some (.integer 4), required := true }] } fun _ => .done .null

/-- Null is an argument and a default like any other value. The default of another parameter is no help to the
first one, even if it has the same name. -/
theorem parameters_bound_layering :
    let definition := layering.definition
    let given : Fields Json := [("a", .null), ("k", .integer 5), ("z", .integer 6)]
    let state : State := { bindings := [("c", .string "old")] }
    let after : State := { bindings := [("a", .null), ("b", .null), ("c", .string "old")] }
    Run.bindParameters definition (some given) state = (.ok (), after) ∧
    (∀ parameter ∈ definition.parameters, ¬parameter.IsMissing (some given) state.bindings) ∧
    definition.declares "k" = false ∧ after.bindings.get? "k" = none ∧
    definition.valueBound? (some given) state.bindings "b" = some .null ∧
    Run.bindParameters definition none state = (.error (.missingRequiredParameter "a" "f"), state) ∧
    ∃ before parameter behind, definition.parameters = before ++ parameter :: behind ∧
      parameter.IsMissing none state.bindings ∧ ∀ earlier ∈ before, ¬earlier.IsMissing none state.bindings := by
  intro definition given state after
  have accepted : Run.bindParameters definition (some given) state = (.ok (), after) := rfl
  have refused : Run.bindParameters definition none state = (.error (.missingRequiredParameter "a" "f"), state) := rfl
  have first := (parameters_bound layering (some given) state).1
  have second := (parameters_bound layering none state).1
  rw [accepted] at first
  rw [refused] at second
  obtain ⟨supplied, -, values⟩ := first
  obtain ⟨-, before, parameter, behind, declared, lacks, earlier, -⟩ := second
  exact ⟨accepted, supplied, rfl, (values "k").2 rfl, (values "b").1.symm, refused, before, parameter, behind,
    declared, lacks, earlier⟩

end PromptKernel
