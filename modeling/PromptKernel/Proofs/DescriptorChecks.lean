import Mathlib.Data.Option.Basic
import PromptKernel.Function.Descriptor
import PromptKernel.Proofs.BuiltKernels
import PromptKernel.Proofs.FieldUpdates
import PromptKernel.Proofs.Traversals

/-! Descriptor records and their definitions. A record is checked in a fixed order, while the definition is being
put together, and is refused for the first thing that is wrong with it. A definition that comes of a record has
the variables for its parameters, each under a name of its own, and the settings for its rules. -/

namespace PromptKernel

section
variable {read : α → Option β} {pairs : List (String × α)} {results : List (String × β)}

theorem lookup_filter (test : String → Bool) (pairs : List (String × α)) (key : String) :
    (pairs.filter fun pair => test pair.1).lookup key = if test key = true then pairs.lookup key else none := by
  induction pairs with
  | nil => simp
  | cons pair pairs ih =>
    obtain ⟨k, value⟩ := pair
    by_cases same : key = k
    · subst same
      by_cases passes : test key = true <;> simp [passes, ih]
    · have passed : (key == k) = false := by simpa using same
      by_cases kept : test k = true <;> simp [kept, List.lookup_cons, passed, ih]

/-- Reading the values of pairs leaves the keys where they are. -/
theorem lookup_of_forall₂
    (made : List.Forall₂ (fun pair result => (read pair.2).map (fun value => (pair.1, value)) = some result)
      pairs results) (key : String) : results.lookup key = (pairs.lookup key).bind read := by
  induction made with
  | nil => rfl
  | @cons pair result pairs results first _ ih =>
    obtain ⟨k, node⟩ := pair
    obtain ⟨value, known, rfl⟩ := Option.map_eq_some_iff.mp first
    by_cases same : key = k
    · subst same
      simp [known]
    · have passed : (key == k) = false := by simpa using same
      simp [List.lookup_cons, passed, ih]

theorem keys_of_forall₂
    (made : List.Forall₂ (fun pair result => (read pair.2).map (fun value => (pair.1, value)) = some result)
      pairs results) : results.map Prod.fst = pairs.map Prod.fst := by
  induction made with
  | nil => rfl
  | cons first _ ih =>
    obtain ⟨value, -, rfl⟩ := Option.map_eq_some_iff.mp first
    rw [List.map_cons, List.map_cons, ih]

end

/-- The types that a descriptor can give to a variable by their names. -/
def ParameterType.written : List ParameterType := [string, number, boolean, array]

theorem ParameterType.ofDescriptor_of_written {type : ParameterType} (member : type ∈ written) {text : Option String}
    (named : text.map Text.trimmed = some type.name) : ofDescriptor text = type := by
  unfold ofDescriptor
  rw [named]
  simp only [written, List.mem_cons, List.not_mem_nil, or_false] at member
  rcases member with rfl | rfl | rfl | rfl <;> rfl

theorem ParameterType.ofDescriptor_of_unwritten {text : Option String}
    (unnamed : ∀ type ∈ written, text.map Text.trimmed ≠ some type.name) : ofDescriptor text = object := by
  unfold ofDescriptor
  split
  next same => exact absurd same (unnamed string (by decide))
  next same => exact absurd same (unnamed number (by decide))
  next same => exact absurd same (unnamed boolean (by decide))
  next same => exact absurd same (unnamed array (by decide))
  next => rfl

theorem ParameterType.ofDescriptor_ne_kernel (text : Option String) : ofDescriptor text ≠ kernel := by
  unfold ofDescriptor
  split <;> decide

/-- The parameter is what the variable says. Any other name of a type, the kernel's included, or none at all
means an object. -/
structure VariableEntry.Declares (entry : VariableEntry) (parameter : Parameter) : Prop where
  name : parameter.name = entry.name
  description : parameter.description = entry.description
  defaultValue : parameter.defaultValue = entry.defaultValue
  required : parameter.required = entry.required
  typed : ∀ type ∈ ParameterType.written, entry.type.map Text.trimmed = some type.name → parameter.type = type
  untyped : (∀ type ∈ ParameterType.written, entry.type.map Text.trimmed ≠ some type.name) → parameter.type = .object

theorem Descriptor.declares_parameter (entry : VariableEntry) : entry.Declares (parameter entry) where
  name := rfl
  description := rfl
  defaultValue := rfl
  required := rfl
  typed _ member named := ParameterType.ofDescriptor_of_written member named
  untyped unnamed := ParameterType.ofDescriptor_of_unwritten unnamed

theorem Descriptor.injected_parameter (entry : VariableEntry) : (parameter entry).injected = false := by
  simpa [Parameter.injected, parameter] using ParameterType.ofDescriptor_ne_kernel entry.type

/-- The rule is what the entry says, with its pattern ready for use. -/
structure SettingsEntry.Sets (entry : SettingsEntry) (rule : Rule) : Prop where
  modelId : rule.modelId = entry.modelId
  pattern : Option.Rel (fun source pattern => Pattern.parse? source = some pattern) entry.pattern rule.pattern
  parameters : rule.parameters = entry.parameters

/-- The entry has no pattern, or one that can be read. -/
def SettingsEntry.Compiles (entry : SettingsEntry) : Prop :=
  ∀ source, entry.pattern = some source → (Pattern.parse? source).isSome = true

theorem Descriptor.sets_of_rule {entry : SettingsEntry} {made : Rule} (built : rule entry = .ok made) :
    entry.Sets made := by
  unfold rule at built
  split at built
  next absent =>
    cases built
    exact ⟨rfl, absent ▸ .none, rfl⟩
  next source given =>
    split at built
    next pattern read =>
      cases built
      exact ⟨rfl, given ▸ .some read, rfl⟩
    next => cases built

theorem Descriptor.exists_rule_iff {entry : SettingsEntry} : (∃ made, rule entry = .ok made) ↔ entry.Compiles := by
  unfold rule SettingsEntry.Compiles
  cases entry.pattern with
  | none => simp
  | some source => cases read : Pattern.parse? source <;> simp [read]

theorem Descriptor.rule_eq_error_iff {entry : SettingsEntry} {fault : DescriptorFault} : rule entry = .error fault ↔
    ∃ source, entry.pattern = some source ∧ Pattern.parse? source = none ∧ fault = .invalidPattern source := by
  unfold rule
  cases given : entry.pattern with
  | none => simp
  | some source => cases read : Pattern.parse? source <;> simp [read, eq_comm]

namespace Descriptor

/-! Variables. -/

/-- Names that are not blank, and that differ from each other and from the ones seen before. -/
structure WellNamed (seen : List String) (entries : List VariableEntry) : Prop where
  visible : ∀ entry ∈ entries, Text.isBlankText entry.name = false
  fresh : ∀ entry ∈ entries, entry.name ∉ seen
  distinct : (entries.map (·.name)).Nodup

theorem wellNamed_cons_iff {seen : List String} {entry : VariableEntry} {entries : List VariableEntry} :
    WellNamed seen (entry :: entries) ↔
      Text.isBlankText entry.name = false ∧ entry.name ∉ seen ∧ WellNamed (seen ++ [entry.name]) entries := by
  constructor
  · rintro ⟨visible, fresh, distinct⟩
    obtain ⟨visible, laterVisible⟩ := List.forall_mem_cons.mp visible
    obtain ⟨fresh, laterFresh⟩ := List.forall_mem_cons.mp fresh
    obtain ⟨unlike, distinct⟩ := List.nodup_cons.mp distinct
    refine ⟨visible, fresh, laterVisible, ?_, distinct⟩
    intro later member known
    rcases List.mem_append.mp known with known | same
    · exact laterFresh later member known
    · exact unlike (List.mem_map.mpr ⟨later, member, List.mem_singleton.mp same⟩)
  · rintro ⟨visible, fresh, later⟩
    refine ⟨List.forall_mem_cons.mpr ⟨visible, later.visible⟩, List.forall_mem_cons.mpr ⟨fresh, ?_⟩,
      List.nodup_cons.mpr ⟨?_, later.distinct⟩⟩
    · intro other member known
      exact later.fresh other member (List.mem_append_left _ known)
    · intro again
      obtain ⟨other, member, same⟩ := List.mem_map.mp again
      exact later.fresh other member (List.mem_append_right _ (List.mem_singleton.mpr same))

/-- What is wrong with a variable of a function after variables of the names seen. A blank name is reported
even if it was seen. -/
inductive Rejects (function : String) (seen : List String) (entry : VariableEntry) : DescriptorFault → Prop
  | blank (blank : Text.isBlankText entry.name = true) : Rejects function seen entry (.unnamedVariable function)
  | repeated (visible : Text.isBlankText entry.name = false) (known : entry.name ∈ seen) :
    Rejects function seen entry (.repeatedVariable entry.name function)

/-- A variable is either refused, or becomes a parameter before the others are looked at. -/
theorem parameters_cons (function : String) (done : List Parameter) (entry : VariableEntry)
    (entries : List VariableEntry) :
    (∃ fault, Rejects function (done.map (·.name)) entry fault ∧
      parameters function done (entry :: entries) = .error fault) ∨
    (Text.isBlankText entry.name = false ∧ entry.name ∉ done.map (·.name)) ∧
      parameters function done (entry :: entries) = parameters function (done ++ [parameter entry]) entries := by
  rw [parameters]
  split
  next blank => exact Or.inl ⟨_, .blank blank, rfl⟩
  next visible =>
    have visible := Bool.eq_false_iff.mpr visible
    split
    next known => exact Or.inl ⟨_, .repeated visible (by simpa using known), rfl⟩
    next fresh => exact Or.inr ⟨⟨visible, by simpa using fresh⟩, rfl⟩

theorem Rejects.not_accepted {function : String} {seen : List String} {entry : VariableEntry} {fault : DescriptorFault}
    (rejects : Rejects function seen entry fault) :
    ¬(Text.isBlankText entry.name = false ∧ entry.name ∉ seen) := by
  rintro ⟨visible, fresh⟩
  cases rejects with
  | blank blank => exact absurd (visible.symm.trans blank) nofun
  | repeated _ known => exact fresh known

theorem Rejects.unique {function : String} {seen : List String} {entry : VariableEntry} {first second : DescriptorFault}
    (one : Rejects function seen entry first) (other : Rejects function seen entry second) : first = second := by
  cases one with
  | blank blank =>
    cases other with
    | blank _ => rfl
    | repeated visible _ => exact absurd (visible.symm.trans blank) nofun
  | repeated visible _ =>
    cases other with
    | blank blank => exact absurd (visible.symm.trans blank) nofun
    | repeated _ _ => rfl

theorem parameters_eq_ok_iff {function : String} {done result : List Parameter} {entries : List VariableEntry} :
    parameters function done entries = .ok result ↔
      WellNamed (done.map (·.name)) entries ∧ result = done ++ entries.map parameter := by
  -- The names to avoid are those of the parameters so far, which grow along the way.
  induction entries generalizing done with
  | nil =>
    rw [parameters, Except.ok.injEq, List.map_nil, List.append_nil, eq_comm]
    exact (and_iff_right ⟨nofun, nofun, List.nodup_nil⟩).symm
  | cons entry entries ih =>
    have later : (done ++ [parameter entry]).map (·.name) = done.map (·.name) ++ [entry.name] := by simp [parameter]
    rw [wellNamed_cons_iff, ← and_assoc]
    rcases parameters_cons function done entry entries with ⟨fault, rejects, failed⟩ | ⟨accepted, same⟩
    · rw [failed]
      exact iff_of_false nofun fun both => rejects.not_accepted both.1.1
    · rw [same, ih, later, and_iff_right accepted, List.append_assoc]
      rfl

theorem parameters_of_wellNamed (function : String) {entries : List VariableEntry} (named : WellNamed [] entries) :
    parameters function [] entries = .ok (entries.map parameter) :=
  parameters_eq_ok_iff.mpr ⟨named, rfl⟩

/-- The fault of the first variable that has one. -/
theorem parameters_eq_error_iff {function : String} {done : List Parameter} {entries : List VariableEntry}
    {fault : DescriptorFault} : parameters function done entries = .error fault ↔
      ∃ before entry behind, entries = before ++ entry :: behind ∧ WellNamed (done.map (·.name)) before ∧
        Rejects function (done.map (·.name) ++ before.map (·.name)) entry fault := by
  induction entries generalizing done with
  | nil => simp [parameters]
  | cons entry entries ih =>
    have later : (done ++ [parameter entry]).map (·.name) = done.map (·.name) ++ [entry.name] := by simp [parameter]
    rcases parameters_cons function done entry entries with ⟨first, rejects, failed⟩ | ⟨accepted, same⟩
    · rw [failed]
      constructor
      · rintro ⟨⟩
        exact ⟨[], entry, entries, rfl, ⟨nofun, nofun, List.nodup_nil⟩, by simpa using rejects⟩
      · rintro ⟨_ | ⟨earlier, before⟩, other, behind, split, named, refused⟩
        · cases split
          exact congrArg Except.error (rejects.unique (by simpa using refused))
        · cases split
          obtain ⟨visible, fresh, -⟩ := wellNamed_cons_iff.mp named
          exact absurd ⟨visible, fresh⟩ rejects.not_accepted
    · rw [same, ih, later]
      constructor
      · rintro ⟨before, other, behind, rfl, named, refused⟩
        refine ⟨entry :: before, other, behind, rfl, wellNamed_cons_iff.mpr ⟨accepted.1, accepted.2, named⟩, ?_⟩
        simpa using refused
      · rintro ⟨_ | ⟨earlier, before⟩, other, behind, split, named, refused⟩
        · cases split
          exact absurd accepted (Rejects.not_accepted (by simpa using refused))
        · cases split
          refine ⟨before, other, behind, rfl, (wellNamed_cons_iff.mp named).2.2, ?_⟩
          simpa using refused

/-! Records. -/

/-- The record has a name, which is not blank. -/
def Named (descriptor : Descriptor) (name : String) : Prop :=
  descriptor.name = some name ∧ Text.isBlankText name = false

/-- What a record has to satisfy for a definition to come of it. -/
structure Sound (descriptor : Descriptor) : Prop where
  name : ∃ name, descriptor.Named name
  template : descriptor.template ≠ none
  inputs : WellNamed [] descriptor.inputs
  settings : ∀ entry ∈ descriptor.settings, entry.Compiles

/-- The first thing that is wrong with a record, as it is reported. -/
inductive Violation (descriptor : Descriptor) : DescriptorFault → Prop
  | name (unnamed : ∀ name, ¬descriptor.Named name) : Violation descriptor .missingName
  | template {name : String} (named : descriptor.Named name) (absent : descriptor.template = none) :
    Violation descriptor (.missingTemplate name)
  | input {name : String} {fault : DescriptorFault} {before behind : List VariableEntry} {entry : VariableEntry}
      (named : descriptor.Named name) (present : descriptor.template ≠ none)
      (declared : descriptor.inputs = before ++ entry :: behind) (passed : WellNamed [] before)
      (rejects : Rejects name (before.map (·.name)) entry fault) : Violation descriptor fault
  | pattern {name source : String} {before behind : List SettingsEntry} {entry : SettingsEntry}
      (named : descriptor.Named name) (present : descriptor.template ≠ none) (inputs : WellNamed [] descriptor.inputs)
      (listed : descriptor.settings = before ++ entry :: behind) (passed : ∀ earlier ∈ before, earlier.Compiles)
      (given : entry.pattern = some source) (unreadable : Pattern.parse? source = none) :
      Violation descriptor (.invalidPattern source)

/-- The definition that the record describes. A parameter is found by a name just when it comes of the variable
of that name. -/
structure Describes (descriptor : Descriptor) (group : String) (definition : Definition) : Prop where
  group : definition.group = group
  name : descriptor.name = some definition.name
  description : definition.description = descriptor.description.getD ""
  template : definition.template = descriptor.template
  format : definition.format = .ofText (descriptor.format.getD "")
  parameters : List.Forall₂ VariableEntry.Declares descriptor.inputs definition.parameters
  distinct : (definition.parameters.map (·.name)).Nodup
  supplied : ∀ parameter ∈ definition.parameters, parameter.injected = false
  rules : List.Forall₂ SettingsEntry.Sets descriptor.settings definition.rules
  lookup : ∀ name parameter, definition.parameter? name = some parameter ↔
    ∃ (i : Nat) (entry : VariableEntry), descriptor.inputs[i]? = some entry ∧ entry.name = name ∧
      definition.parameters[i]? = some parameter

variable {descriptor : Descriptor} {group : String}

theorem definition_of_unnamed (unnamed : ∀ name, ¬descriptor.Named name) (group : String) :
    descriptor.definition group = .error .missingName := by
  unfold definition
  cases given : descriptor.name with
  | none => rfl
  | some name =>
    have blank : Text.isBlankText name = true := by
      by_contra visible
      exact unnamed name ⟨given, Bool.eq_false_iff.mpr visible⟩
    simp [blank, bind, Except.bind]

theorem definition_of_untemplated {name : String} (named : descriptor.Named name)
    (absent : descriptor.template = none) (group : String) :
    descriptor.definition group = .error (.missingTemplate name) := by
  unfold definition
  rw [named.1, absent]
  simp [named.2, bind, Except.bind, pure, Except.pure]

/-- Behind the name and the template, the variables are looked at before the settings. -/
theorem definition_of_templated {name template : String} (named : descriptor.Named name)
    (present : descriptor.template = some template) (group : String) :
    descriptor.definition group =
      match parameters name [] descriptor.inputs with
      | .error fault => .error fault
      | .ok parameters => (descriptor.settings.mapM rule).map fun rules => {
        group, name, description := descriptor.description.getD "", template := some template
        format := .ofText (descriptor.format.getD ""), parameters, rules } := by
  unfold definition
  rw [named.1, present]
  simp only [named.2, bind, Except.bind, pure, Except.pure]
  cases parameters name [] descriptor.inputs with
  | error fault => rfl
  | ok parameters => cases descriptor.settings.mapM rule <;> rfl

theorem definition_of_violation {fault : DescriptorFault} (violation : descriptor.Violation fault) (group : String) :
    descriptor.definition group = .error fault := by
  cases violation with
  | name unnamed => exact definition_of_unnamed unnamed group
  | template named absent => exact definition_of_untemplated named absent group
  | input named present declared passed rejects =>
    obtain ⟨template, given⟩ := Option.ne_none_iff_exists'.mp present
    have failed : parameters _ [] descriptor.inputs = .error fault :=
      parameters_eq_error_iff.mpr ⟨_, _, _, declared, passed, rejects⟩
    rw [definition_of_templated named given, failed]
  | pattern named present inputs listed passed given unreadable =>
    obtain ⟨template, text⟩ := Option.ne_none_iff_exists'.mp present
    have failed := mapM_eq_error_iff.mpr ⟨_, _, _, listed,
      fun earlier member => exists_rule_iff.mpr (passed earlier member), rule_eq_error_iff.mpr ⟨_, given, unreadable, rfl⟩⟩
    rw [definition_of_templated named text, parameters_of_wellNamed _ inputs, failed]
    rfl

theorem sound_or_violation (descriptor : Descriptor) : descriptor.Sound ∨ ∃ fault, descriptor.Violation fault := by
  by_cases named : ∃ name, descriptor.Named name
  · obtain ⟨name, named⟩ := named
    by_cases absent : descriptor.template = none
    · exact Or.inr ⟨_, .template named absent⟩
    cases read : parameters name [] descriptor.inputs with
    | error fault =>
      obtain ⟨before, entry, behind, declared, passed, rejects⟩ := parameters_eq_error_iff.mp read
      exact Or.inr ⟨fault, .input named absent declared passed (by simpa using rejects)⟩
    | ok result =>
      have inputs := (parameters_eq_ok_iff.mp read).1
      cases built : descriptor.settings.mapM rule with
      | error fault =>
        obtain ⟨before, entry, behind, listed, passed, failed⟩ := mapM_eq_error_iff.mp built
        obtain ⟨source, given, unreadable, -⟩ := rule_eq_error_iff.mp failed
        exact Or.inr ⟨_, .pattern named absent inputs listed
          (fun earlier member => exists_rule_iff.mp (passed earlier member)) given unreadable⟩
      | ok rules =>
        refine Or.inl ⟨⟨name, named⟩, absent, inputs, ?_⟩
        intro entry member
        exact exists_rule_iff.mp (exists_mapM_iff.mp ⟨rules, built⟩ entry member)
  · exact Or.inr ⟨_, .name fun name given => named ⟨name, given⟩⟩

/-- The parameters stand where their variables do, so a name leads from the one to the other. -/
theorem parameter?_eq_some_iff {definition : Definition} {entries : List VariableEntry}
    (same : definition.parameters = entries.map parameter) (distinct : (entries.map (·.name)).Nodup) {name : String}
    {found : Parameter} : definition.parameter? name = some found ↔ ∃ (i : Nat) (entry : VariableEntry),
      entries[i]? = some entry ∧ entry.name = name ∧ definition.parameters[i]? = some found := by
  have names : (definition.parameters.map (·.name)).Nodup := by
    rw [same, List.map_map]
    exact distinct
  rw [Definition.parameter?, find?_key_eq_some_iff names]
  constructor
  · rintro ⟨member, named⟩
    obtain ⟨i, there⟩ := List.mem_iff_getElem?.mp member
    rw [same, List.getElem?_map] at there
    obtain ⟨entry, declared, rfl⟩ := Option.map_eq_some_iff.mp there
    exact ⟨i, entry, declared, named, by rw [same, List.getElem?_map, declared]; rfl⟩
  · rintro ⟨i, entry, declared, rfl, there⟩
    refine ⟨List.mem_of_getElem? there, ?_⟩
    rw [same, List.getElem?_map, declared] at there
    cases there
    rfl

theorem definition_of_sound (sound : descriptor.Sound) (group : String) :
    ∃ definition, descriptor.definition group = .ok definition ∧ descriptor.Describes group definition := by
  obtain ⟨name, named⟩ := sound.name
  obtain ⟨template, present⟩ := Option.ne_none_iff_exists'.mp sound.template
  obtain ⟨rules, built⟩ := exists_mapM_iff.mpr fun entry member => exists_rule_iff.mpr (sound.settings entry member)
  rw [definition_of_templated named present, parameters_of_wellNamed name sound.inputs, built]
  refine ⟨_, rfl, ?_⟩
  exact {
    group := rfl
    name := named.1
    description := rfl
    template := present.symm
    -- `rfl` would go on to trim the text.
    format := by dsimp only
    parameters := List.forall₂_map_right_iff.mpr (List.forall₂_same.mpr fun entry _ => declares_parameter entry)
    distinct := by
      rw [List.map_map]
      exact sound.inputs.distinct
    supplied := by
      intro parameter member
      obtain ⟨entry, -, rfl⟩ := List.mem_map.mp member
      exact injected_parameter entry
    rules := (mapM_eq_ok_iff.mp built).imp fun entry rule made => sets_of_rule made
    lookup := fun name parameter => parameter?_eq_some_iff rfl sound.inputs.distinct }

end Descriptor

/-- The entry is what the members of a mapping say. All members but two are its parameters, and of several with
one name the last one counts. -/
structure SettingsEntry.Reads (entry : SettingsEntry) (members : List (String × Yaml.Node)) : Prop where
  modelId : Descriptor.optionalText? members "model_id" = some entry.modelId
  pattern : Descriptor.optionalText? members "model_id_pattern" = some entry.pattern
  keys : ∀ key, key ∈ entry.parameters.keys ↔
    key ∈ members.map Prod.fst ∧ key ≠ "model_id" ∧ key ≠ "model_id_pattern"
  values : ∀ key ∈ entry.parameters.keys,
    entry.parameters.get? key = (members.reverse.lookup key).bind (·.json? .textOnly (Yaml.depthLimit - 3))

theorem Descriptor.reads_of_settings? {node : Yaml.Node} {entry : SettingsEntry} (read : settings? node = some entry) :
    ∃ members, node.members? = some members ∧ entry.Reads members := by
  obtain ⟨members, mapping, read⟩ := Option.bind_eq_some_iff.mp read
  obtain ⟨pairs, values, read⟩ := Option.bind_eq_some_iff.mp read
  obtain ⟨modelId, idRead, read⟩ := Option.bind_eq_some_iff.mp read
  obtain ⟨pattern, patternRead, read⟩ := Option.bind_eq_some_iff.mp read
  cases read
  have each := mapM_eq_some_iff.mp values
  have keys (key : String) : key ∈ (Fields.ofList pairs).keys ↔
      key ∈ members.map Prod.fst ∧ key ≠ "model_id" ∧ key ≠ "model_id_pattern" := by
    rw [Fields.mem_keys_ofList, keys_of_forall₂ each]
    simp
  refine ⟨members, mapping, idRead, patternRead, keys, ?_⟩
  intro key member
  obtain ⟨-, unlikeId, unlikePattern⟩ := (keys key).mp member
  rw [Fields.get?_ofList, lookup_of_forall₂ (List.forall₂_reverse_iff.mpr each), ← List.filter_reverse,
    lookup_filter fun key => key != "model_id" && key != "model_id_pattern"]
  simp [unlikeId, unlikePattern]

/-- A definition comes of a record just when the record is sound, and otherwise the first violation is reported.
The definition describes the same function as the record, with parameters that have names of their own and are
supplied by callers, and with rules that send the fields of their entries. Documents that can be read as a record
are dealt with in the same way. -/
theorem descriptor_checked (descriptor : Descriptor) (group : String) :
    ((∃ definition, descriptor.definition group = .ok definition) ↔ descriptor.Sound) ∧
    (∀ fault, descriptor.definition group = .error fault ↔ descriptor.Violation fault) ∧
    (∀ definition, descriptor.definition group = .ok definition → descriptor.Describes group definition) ∧
    (∀ node entry, Descriptor.settings? node = some entry →
      ∃ members, node.members? = some members ∧ entry.Reads members) ∧
    ∀ text, Descriptor.ofText? text = some descriptor →
      Definition.ofYaml group text = (descriptor.definition group).mapError .malformedDescriptor := by
  have refused (fault : DescriptorFault) (violation : descriptor.Violation fault) :
      descriptor.definition group = .error fault := Descriptor.definition_of_violation violation group
  refine ⟨?_, ?_, ?_, fun node entry => Descriptor.reads_of_settings?, ?_⟩
  · constructor
    · rintro ⟨definition, made⟩
      rcases descriptor.sound_or_violation with sound | ⟨fault, violation⟩
      · exact sound
      · exact absurd (made.symm.trans (refused fault violation)) nofun
    · intro sound
      obtain ⟨definition, made, -⟩ := Descriptor.definition_of_sound sound group
      exact ⟨definition, made⟩
  · intro fault
    refine ⟨?_, refused fault⟩
    intro failed
    rcases descriptor.sound_or_violation with sound | ⟨other, violation⟩
    · obtain ⟨definition, made, -⟩ := Descriptor.definition_of_sound sound group
      exact absurd (failed.symm.trans made) nofun
    · obtain rfl := Except.error.inj (failed.symm.trans (refused other violation))
      exact violation
  · intro definition made
    rcases descriptor.sound_or_violation with sound | ⟨fault, violation⟩
    · obtain ⟨other, same, describes⟩ := Descriptor.definition_of_sound sound group
      obtain rfl := Except.ok.inj (made.symm.trans same)
      exact describes
    · exact absurd (made.symm.trans (refused fault violation)) nofun
  · intro text read
    unfold Definition.ofYaml
    rw [read]

end PromptKernel
