import PromptKernel.Function.Binding
import PromptKernel.Proofs.FieldUpdates

/-! Binding arguments at a call, or ahead of it. Arguments that a call brings along have the effect
that they have when the variables are overwritten first and the function is then called without
any: parameters are bound one by one, and overwriting the variables afterwards or beforehand makes
no difference to any of them. -/

namespace PromptKernel
variable {arguments : Fields Json}

namespace Parameter

/-- Binds the parameters in order, each with what the ones before it left. -/
def bindAll (parameters : List Parameter) (arguments : Option (Fields Json)) (bindings : Fields Json) :
    Fields Json :=
  parameters.foldl (fun bindings parameter => parameter.bind arguments bindings) bindings

@[simp] theorem bindAll_nil (arguments : Option (Fields Json)) (bindings : Fields Json) :
    bindAll [] arguments bindings = bindings := rfl

@[simp] theorem bindAll_cons (parameter : Parameter) (parameters : List Parameter)
    (arguments : Option (Fields Json)) (bindings : Fields Json) :
    bindAll (parameter :: parameters) arguments bindings =
      bindAll parameters arguments (parameter.bind arguments bindings) := rfl

theorem bindAll_append (first second : List Parameter) (arguments : Option (Fields Json)) (bindings : Fields Json) :
    bindAll (first ++ second) arguments bindings = bindAll second arguments (bindAll first arguments bindings) :=
  List.foldl_append

theorem bind_of_given {parameter : Parameter} {value : Json} (given : arguments.get? parameter.name = some value)
    (bindings : Fields Json) : parameter.bind (some arguments) bindings = bindings.insert parameter.name value := by
  unfold bind
  dsimp only [Option.bind]
  rw [given]

/-- The arguments take precedence whether the parameter is bound before or after them. -/
theorem bind_merge (parameter : Parameter) (arguments bindings : Fields Json) :
    (parameter.bind (some arguments) bindings).merge arguments =
      parameter.bind none (bindings.merge arguments) := by
  by_cases declared : parameter.name ∈ arguments.keys
  · have held : arguments.has parameter.name := (Fields.has_iff arguments parameter.name).mpr declared
    obtain ⟨value, given⟩ := Option.isSome_iff_exists.mp held
    rw [bind_of_given given, Fields.merge_insert_of_mem declared]
    simp [bind, Fields.has_merge, held]
  · have absent : arguments.has parameter.name = false :=
      Bool.eq_false_iff.mpr fun held => declared ((Fields.has_iff arguments parameter.name).mp held)
    have untold : arguments.get? parameter.name = none := by simpa [Fields.has] using absent
    unfold bind
    dsimp only [Option.bind]
    rw [Fields.has_merge, absent, Bool.or_false, untold]
    dsimp only
    split
    · rfl
    · cases parameter.defaultValue with
      | none => rfl
      | some value => exact Fields.merge_insert_comm declared bindings value

theorem bindAll_merge (parameters : List Parameter) (arguments bindings : Fields Json) :
    (bindAll parameters (some arguments) bindings).merge arguments =
      bindAll parameters none (bindings.merge arguments) := by
  induction parameters generalizing bindings with
  | nil => rfl
  | cons parameter parameters ih => rw [bindAll_cons, bindAll_cons, ih, bind_merge]

theorem holds_bind {key : String} {value : Json} {bindings : Fields Json}
    (given : arguments.get? key = some value) (holds : bindings.Holds key value) (parameter : Parameter) :
    (parameter.bind (some arguments) bindings).Holds key value := by
  by_cases same : parameter.name = key
  · subst same
    rw [bind_of_given given]
    exact .insert_self bindings parameter.name value
  · unfold bind
    split
    · exact holds.insert same
    · split
      · exact holds
      · split
        · exact holds.insert same
        · exact holds

theorem holds_bindAll {key : String} {value : Json} (given : arguments.get? key = some value)
    (parameters : List Parameter) {bindings : Fields Json} (holds : bindings.Holds key value) :
    (bindAll parameters (some arguments) bindings).Holds key value := by
  induction parameters generalizing bindings with
  | nil => exact holds
  | cons parameter parameters ih => exact ih (holds_bind given holds parameter)

/-- An argument is bound as soon as a parameter asks for it, and stays. -/
theorem holds_of_declared {parameter : Parameter} {parameters : List Parameter} (member : parameter ∈ parameters)
    {value : Json} (given : arguments.get? parameter.name = some value) (bindings : Fields Json) :
    (bindAll parameters (some arguments) bindings).Holds parameter.name value := by
  obtain ⟨before, after, rfl⟩ := List.append_of_mem member
  rw [bindAll_append, bindAll_cons, bind_of_given given]
  exact holds_bindAll given after (.insert_self _ parameter.name value)

end Parameter

namespace Definition

theorem missing?_eq_none_iff (definition : Definition) (arguments : Option (Fields Json)) (bindings : Fields Json) :
    definition.missing? arguments bindings = none ↔
      ∀ parameter ∈ definition.ownParameters, parameter.required → parameter.isSupplied arguments bindings := by
  simp [missing?, List.find?_eq_none]

theorem bind_eq_ok_iff {definition : Definition} {arguments : Option (Fields Json)} {bindings bound : Fields Json} :
    definition.bind arguments bindings = .ok bound ↔ definition.missing? arguments bindings = none ∧
      bound = Parameter.bindAll definition.ownParameters arguments bindings := by
  unfold bind Parameter.bindAll
  cases definition.missing? arguments bindings <;> simp [eq_comm]

theorem bind_of_supplied {definition : Definition} {arguments : Option (Fields Json)} {bindings : Fields Json}
    (supplied : ∀ parameter ∈ definition.ownParameters, parameter.required →
      parameter.isSupplied arguments bindings) :
    definition.bind arguments bindings = .ok (Parameter.bindAll definition.ownParameters arguments bindings) :=
  bind_eq_ok_iff.mpr ⟨(definition.missing?_eq_none_iff arguments bindings).mpr supplied, rfl⟩

/-- A map of arguments that names nothing but parameters that callers supply, and all of those that
are required. -/
structure Fits (definition : Definition) (arguments : Fields Json) : Prop where
  distinct : arguments.keys.Nodup
  declared : ∀ key ∈ arguments.keys, ∃ parameter ∈ definition.ownParameters, parameter.name = key
  supplied : ∀ parameter ∈ definition.ownParameters, parameter.required → parameter.name ∈ arguments.keys

/-- A call with fitting arguments binds the same variables as a call without any finds after the
variables were overwritten. -/
theorem bind_agrees {definition : Definition} (fits : definition.Fits arguments) (bindings : Fields Json) :
    ∃ bound, definition.bind (some arguments) bindings = .ok bound ∧
      definition.bind none (bindings.merge arguments) = .ok bound := by
  have given : ∀ parameter ∈ definition.ownParameters, parameter.required → arguments.has parameter.name :=
    fun parameter member required => (Fields.has_iff _ _).mpr (fits.supplied parameter member required)
  have found : ∀ parameter ∈ definition.ownParameters, parameter.required →
      parameter.isSupplied none (bindings.merge arguments) := by
    intro parameter member required
    have bound : (bindings.merge arguments).has parameter.name := by
      rw [Fields.has_merge, given parameter member required, Bool.or_true]
    exact Bool.or_eq_true_iff.mpr (Or.inl bound)
  -- Every argument is bound by the parameter that declares it, so overwriting once more is idle.
  have overwritten : (Parameter.bindAll definition.ownParameters (some arguments) bindings).merge arguments =
      Parameter.bindAll definition.ownParameters (some arguments) bindings := by
    refine Fields.merge_eq_self fun (key, value) entry => ?_
    obtain ⟨parameter, member, rfl⟩ := fits.declared key (List.mem_map_of_mem entry)
    exact Parameter.holds_of_declared member (Fields.get?_of_mem fits.distinct entry) bindings
  refine ⟨_, bind_of_supplied given, ?_⟩
  rw [bind_of_supplied found, ← Parameter.bindAll_merge, overwritten]

end Definition

end PromptKernel
