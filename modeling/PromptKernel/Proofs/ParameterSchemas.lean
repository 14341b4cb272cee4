import PromptKernel.Proofs.BindingOutcomes

/-! The description that a function publishes of its parameters, and what becomes of calls. A call with
arguments is accepted just when it gives all that the description requires, and the variables that calls may
write are those that the description lists. -/

namespace PromptKernel

namespace Json

/-- The part of the value that a list of keys leads to. -/
def at? (value : Json) (keys : List String) : Option Json := keys.foldlM member? value

end Json

namespace Definition
variable {definition : Definition} {name : String}

theorem describe_at_required (definition : Definition) :
    definition.describe.at? ["parameters", "required"] = some (.array (definition.requiredNames.map .string)) := by
  simp [describe, Json.at?, Json.member?, Fields.get?_ofList]

theorem describe_at_properties (definition : Definition) :
    definition.describe.at? ["parameters", "properties"] = some (.object definition.properties) := by
  simp [describe, Json.at?, Json.member?, Fields.get?_ofList, List.lookup_cons]

theorem mem_keys_properties_iff : name ∈ definition.properties.keys ↔ definition.declares name = true := by
  rw [properties, Fields.mem_keys_ofList, declares_iff, List.map_map]
  rfl

theorem mem_requiredNames_iff : name ∈ definition.requiredNames ↔
    ∃ parameter ∈ definition.ownParameters, parameter.required = true ∧ parameter.name = name := by
  simp [requiredNames, and_assoc]

theorem declares_of_mem_requiredNames (required : name ∈ definition.requiredNames) :
    definition.declares name = true := by
  obtain ⟨parameter, member, -, same⟩ := mem_requiredNames_iff.mp required
  exact declares_iff.mpr (List.mem_map.mpr ⟨parameter, member, same⟩)

theorem exists_bind_iff {arguments : Option (Fields Json)} {bindings : Fields Json} :
    (∃ bound, definition.bind arguments bindings = .ok bound) ↔ definition.missing? arguments bindings = none := by
  unfold bind
  cases definition.missing? arguments bindings <;> simp

/-- A call that brings arguments along is accepted just when the required names are among them. -/
theorem exists_bind_given_iff {given bindings : Fields Json} :
    (∃ bound, definition.bind (some given) bindings = .ok bound) ↔
      ∀ name ∈ definition.requiredNames, name ∈ given.keys := by
  rw [exists_bind_iff, missing?_eq_none_iff]
  simp only [Parameter.isSupplied, Fields.has_iff]
  constructor
  · intro supplied name required
    obtain ⟨parameter, member, asked, rfl⟩ := mem_requiredNames_iff.mp required
    exact supplied parameter member asked
  · intro supplied parameter member asked
    exact supplied parameter.name (mem_requiredNames_iff.mpr ⟨parameter, member, asked, rfl⟩)

theorem exists_other_value (value? : Option Json) : ∃ value : Json, some value ≠ value? := by
  by_cases null : value? = some .null
  · exact ⟨.bool true, by rw [null]; exact nofun⟩
  · exact ⟨.null, Ne.symm null⟩

/-- Some call writes the name, whatever the variables are. It gives all that is required, and a new value under
this name. -/
theorem exists_bind_writing (declared : definition.declares name = true) (bindings : Fields Json) :
    ∃ given bound, definition.bind (some given) bindings = .ok bound ∧ bound.get? name ≠ bindings.get? name := by
  obtain ⟨value, new⟩ := exists_other_value (bindings.get? name)
  -- The new value comes last, for the name may be a required one as well.
  let pairs := definition.requiredNames.map (fun name => (name, Json.null)) ++ [(name, value)]
  have complete : ∀ other ∈ definition.requiredNames, other ∈ (Fields.ofList pairs).keys := by
    intro other required
    apply Fields.mem_keys_ofList.mpr
    exact List.mem_map.mpr ⟨(other, .null), List.mem_append_left _ (List.mem_map_of_mem required), rfl⟩
  obtain ⟨bound, accepted⟩ : ∃ bound, definition.bind (some (Fields.ofList pairs)) bindings = .ok bound :=
    exists_bind_given_iff.mpr complete
  refine ⟨_, bound, accepted, ?_⟩
  have given : (Fields.ofList pairs).get? name = some value := by simp [Fields.get?_ofList, pairs]
  have written : bound.get? name = some value := by
    rw [eq_bindAll_of_bind accepted, get?_bindAll, valueBound?, if_pos declared]
    simp [given]
  rw [written]
  exact new

/-- The description of a function agrees with what calls are held to. -/
theorem description_agrees (definition : Definition) : ∃ (required : List String) (properties : Fields Json),
    definition.describe.at? ["parameters", "required"] = some (.array (required.map .string)) ∧
    definition.describe.at? ["parameters", "properties"] = some (.object properties) ∧
    (∀ given bindings, (∃ bound, definition.bind (some given) bindings = .ok bound) ↔
      ∀ name ∈ required, name ∈ given.keys) ∧
    (∀ name ∈ required, name ∈ properties.keys) ∧
    (∀ name ∈ properties.keys, ∀ bindings, ∃ given bound,
      definition.bind (some given) bindings = .ok bound ∧ bound.get? name ≠ bindings.get? name) ∧
    ∀ arguments bindings bound, definition.bind arguments bindings = .ok bound →
      ∀ name, bound.get? name ≠ bindings.get? name → name ∈ properties.keys := by
  refine ⟨definition.requiredNames, definition.properties, definition.describe_at_required,
    definition.describe_at_properties, fun given bindings => exists_bind_given_iff, ?_, ?_, ?_⟩
  · intro name required
    exact mem_keys_properties_iff.mpr (declares_of_mem_requiredNames required)
  · intro name listed bindings
    exact exists_bind_writing (mem_keys_properties_iff.mp listed) bindings
  · intro arguments bindings bound accepted name written
    apply mem_keys_properties_iff.mpr
    by_contra undeclared
    apply written
    rw [eq_bindAll_of_bind accepted, get?_bindAll]
    exact valueBound?_of_undeclared (Bool.eq_false_iff.mpr undeclared)

end Definition

end PromptKernel
