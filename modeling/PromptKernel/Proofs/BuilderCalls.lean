import Mathlib.Data.List.Forall2
import PromptKernel.Proofs.CallAgreement
import PromptKernel.Proofs.TemplateCalls

/-! Kernels from what their builders are told. A builder collects functions and services in the order
of the calls, of a choice that is made twice the later one counts, and a kernel comes of it unless a
name comes twice or a choice leads nowhere. In such a kernel names lead to their functions, the entry
point is there, and with any service at all there is one for every template function. -/

namespace PromptKernel

namespace Builder

/-! What calls add up to. -/

/-- What both builders hold, with the choices of the later one if it made any. -/
def append (first later : Builder) : Builder where
  functions := first.functions ++ later.functions
  services := first.services ++ later.services
  defaultService := later.defaultService <|> first.defaultService
  entryPoint := later.entryPoint <|> first.entryPoint

/-- A call does to a builder what it does to a new one, on top of what is there. -/
theorem perform_eq_map_append (builder : Builder) (call : Call) :
    builder.perform call = (({} : Builder).perform call).map builder.append := by
  cases call with
  | function _ | service _ => simp [perform, Except.map, append, addFunction, addService]
  | defaultService _ | entryPoint _ => simp [perform, Except.map, append, setDefaultService, setEntryPoint]
  | config config surroundings =>
    unfold perform addConfig
    dsimp only
    cases config.services.mapM fun service => service.build surroundings.environment with
    | error error => rfl
    | ok apis =>
      cases config.functions.mapM fun entry => config.definition surroundings.files entry with
      | error error => rfl
      | ok definitions => simp [bind, Except.bind, pure, Except.pure, Except.map, append]

/-- The parts are what the calls register one by one. -/
abbrev Registers (calls : List Call) (parts : List Builder) : Prop :=
  List.Forall₂ (fun call part => ({} : Builder).perform call = .ok part) calls parts

theorem exists_parts_of_follow {calls : List Call} {start builder : Builder} (made : start.follow calls = .ok builder) :
    ∃ parts, Registers calls parts ∧ builder = parts.foldl append start := by
  induction calls generalizing start with
  | nil => cases made; exact ⟨[], .nil, rfl⟩
  | cons call calls ih =>
    rw [follow, List.foldlM_cons, perform_eq_map_append] at made
    cases performed : ({} : Builder).perform call with
    | error error => rw [performed] at made; cases made
    | ok part =>
      rw [performed] at made
      have rest : (start.append part).follow calls = .ok builder := made
      obtain ⟨parts, registers, rfl⟩ := ih rest
      exact ⟨part :: parts, .cons performed registers, rfl⟩

/-- What is collected stays in the order of the calls. -/
theorem list_foldl_append {collected : Builder → List α}
    (adds : ∀ first later, collected (append first later) = collected first ++ collected later)
    (parts : List Builder) (start : Builder) :
    collected (parts.foldl append start) = collected start ++ parts.flatMap collected := by
  induction parts generalizing start with
  | nil => simp
  | cons part parts ih => rw [List.foldl_cons, ih, adds, List.flatMap_cons, List.append_assoc]

/-- The last choice counts. -/
theorem choice_foldl_append {choice : Builder → Option α}
    (last : ∀ first later, choice (append first later) = (choice later <|> choice first))
    (parts : List Builder) (start : Builder) :
    choice (parts.foldl append start) = (parts.filterMap choice).getLast?.or (choice start) := by
  induction parts generalizing start with
  | nil => rfl
  | cons part parts ih =>
    rw [List.foldl_cons, ih, last]
    cases made : choice part with
    | none => rw [List.filterMap_cons_none made]; rfl
    | some value =>
      rw [List.filterMap_cons_some made, List.getLast?_cons]
      cases (parts.filterMap choice).getLast? <;> rfl

/-! What becomes of a builder. -/

theorem duplicate?_eq_some_iff {seen : List FunctionRef} {functions : List Function} {ref : FunctionRef} :
    duplicate? seen functions = some ref ↔
      ∃ before function after, functions = before ++ function :: after ∧ function.ref = ref ∧
        duplicate? seen before = none ∧ ref ∈ seen ++ before.map Function.ref := by
  induction functions generalizing seen with
  | nil => simp [duplicate?]
  | cons first rest ih =>
    by_cases repeated : first.ref ∈ seen
    · have found : duplicate? seen (first :: rest) = some first.ref := by simp [duplicate?, repeated]
      rw [found]
      constructor
      · rintro ⟨⟩
        exact ⟨[], first, rest, rfl, rfl, rfl, by simpa using repeated⟩
      · rintro ⟨_ | ⟨earlier, before⟩, function, after, split, rfl, clear, -⟩
        · cases split; rfl
        · cases split
          simp [duplicate?, repeated] at clear
    · have skipped (functions : List Function) :
          duplicate? seen (first :: functions) = duplicate? (first.ref :: seen) functions := by
        simp [duplicate?, repeated]
      rw [skipped, ih]
      constructor
      · rintro ⟨before, function, after, rfl, rfl, clear, known⟩
        refine ⟨first :: before, function, after, rfl, rfl, (skipped before).trans clear, ?_⟩
        simpa [or_left_comm] using known
      · rintro ⟨_ | ⟨earlier, before⟩, function, after, split, rfl, clear, known⟩
        · cases split
          exact absurd (by simpa using known) repeated
        · cases split
          refine ⟨before, function, after, rfl, rfl, (skipped before).symm.trans clear, ?_⟩
          simpa [or_left_comm] using known

/-- Functions have names of their own, and what is chosen is there. -/
structure Consistent (builder : Builder) : Prop where
  distinct : (builder.functions.map Function.ref).Nodup
  entryPoint : ∀ ref, builder.entryPoint = some ref → ref ∈ builder.functions.map Function.ref
  defaultService : ∀ modelId, builder.defaultService = some modelId → modelId ∈ builder.services.map Service.modelId

/-- The first thing that is wrong with a builder, as it is reported. -/
inductive Violation (builder : Builder) : Error → Prop
  /-- The function is the first one whose name came before. -/
  | duplicate {before after : List Function} {function : Function}
      (registered : builder.functions = before ++ function :: after) (distinct : (before.map Function.ref).Nodup)
      (again : function.ref ∈ before.map Function.ref) :
      Violation builder (.duplicateFunction function.ref.group function.ref.name)
  | entryPoint {ref : FunctionRef} (distinct : (builder.functions.map Function.ref).Nodup)
      (chosen : builder.entryPoint = some ref) (unknown : ref ∉ builder.functions.map Function.ref) :
      Violation builder (.functionNotFound ref.group ref.name)
  | defaultService {modelId : String} (distinct : (builder.functions.map Function.ref).Nodup)
      (entryPoint : ∀ ref, builder.entryPoint = some ref → ref ∈ builder.functions.map Function.ref)
      (chosen : builder.defaultService = some modelId) (unknown : modelId ∉ builder.services.map Service.modelId) :
      Violation builder (.config (.unknownDefault modelId))

variable {builder : Builder}

theorem unknownEntry_iff {ref : FunctionRef} :
    (builder.entryPoint.filter fun ref => !builder.functions.any (·.ref == ref)) = some ref ↔
      builder.entryPoint = some ref ∧ ref ∉ builder.functions.map Function.ref := by
  simp [Option.filter_eq_some_iff]

theorem defaultPosition_eq_error_iff {error : Error} : builder.defaultPosition = .error error ↔
    ∃ modelId, builder.defaultService = some modelId ∧ modelId ∉ builder.services.map Service.modelId ∧
      error = .config (.unknownDefault modelId) := by
  unfold defaultPosition
  cases chosen : builder.defaultService with
  | none => simp
  | some modelId =>
    dsimp only
    split
    next position found =>
      obtain ⟨inside, same, -⟩ := List.findIdx?_eq_some_iff_getElem.mp found
      have present : modelId ∈ builder.services.map Service.modelId :=
        List.mem_map.mpr ⟨_, List.getElem_mem inside, by simpa using same⟩
      constructor
      · exact nofun
      · rintro ⟨_, ⟨⟩, absent, -⟩
        exact absurd present absent
    next missing =>
      have absent : modelId ∉ builder.services.map Service.modelId := by simpa using missing
      constructor
      · rintro ⟨⟩
        exact ⟨modelId, rfl, absent, rfl⟩
      · rintro ⟨_, ⟨⟩, -, rfl⟩
        rfl

/-- The first service of the chosen model, or without a choice the first service of all. -/
def standard? (builder : Builder) : Option Service :=
  match builder.defaultService with
  | some modelId => builder.services.find? fun service => service.modelId == modelId
  | none => builder.services.head?

theorem service_of_defaultPosition {position : Option Nat} (found : builder.defaultPosition = .ok position) :
    position.bind (builder.services[·]?) = builder.standard? := by
  unfold defaultPosition at found
  unfold standard?
  cases chosen : builder.defaultService with
  | none =>
    rw [chosen] at found
    cases found
    cases builder.services <;> rfl
  | some modelId =>
    rw [chosen] at found
    dsimp only at found ⊢
    split at found
    next position first =>
      cases found
      rw [List.find?_eq_bind_findIdx?_getElem?, first]
    next => cases found

theorem build_eq_error_iff {error : Error} : builder.build = .error error ↔ builder.Violation error := by
  constructor
  · intro refused
    unfold build at refused
    split at refused
    next ref found =>
      cases refused
      obtain ⟨before, function, after, registered, rfl, clear, known⟩ := duplicate?_eq_some_iff.mp found
      exact .duplicate registered ((duplicate?_eq_none_iff [] before).mp clear).1 known
    next unrepeated =>
      obtain ⟨distinct, -⟩ := (duplicate?_eq_none_iff [] builder.functions).mp unrepeated
      split at refused
      next ref found =>
        cases refused
        obtain ⟨chosen, unknown⟩ := unknownEntry_iff.mp found
        exact .entryPoint distinct chosen unknown
      next known =>
        have entryPoint : ∀ ref, builder.entryPoint = some ref → ref ∈ builder.functions.map Function.ref := by
          intro ref chosen
          by_contra unknown
          rw [unknownEntry_iff.mpr ⟨chosen, unknown⟩] at known
          cases known
        cases failed : builder.defaultPosition with
        | error fault =>
          rw [failed] at refused
          obtain rfl := Except.error.inj refused
          obtain ⟨modelId, chosen, unknown, rfl⟩ := defaultPosition_eq_error_iff.mp failed
          exact .defaultService distinct entryPoint chosen unknown
        | ok position => rw [failed] at refused; cases refused
  · intro violation
    unfold build
    -- The checks are made in this order, so each of them needs those before it to have passed.
    cases violation with
    | duplicate registered distinct again =>
      have clear := (duplicate?_eq_none_iff [] _).mpr ⟨distinct, fun _ _ => List.not_mem_nil⟩
      rw [duplicate?_eq_some_iff.mpr ⟨_, _, _, registered, rfl, clear, again⟩]
    | entryPoint distinct chosen unknown =>
      rw [(duplicate?_eq_none_iff [] _).mpr ⟨distinct, fun _ _ => List.not_mem_nil⟩]
      dsimp only
      rw [unknownEntry_iff.mpr ⟨chosen, unknown⟩]
    | defaultService distinct entryPoint chosen unknown =>
      rw [(duplicate?_eq_none_iff [] _).mpr ⟨distinct, fun _ _ => List.not_mem_nil⟩]
      have known : (builder.entryPoint.filter fun ref => !builder.functions.any (·.ref == ref)) = none :=
        Option.eq_none_iff_forall_ne_some.mpr fun ref found =>
          (unknownEntry_iff.mp found).2 (entryPoint ref (unknownEntry_iff.mp found).1)
      dsimp only
      rw [known]
      dsimp only
      rw [defaultPosition_eq_error_iff.mpr ⟨_, chosen, unknown, rfl⟩]
      rfl

theorem Consistent.not_violation (consistent : builder.Consistent) (error : Error) : ¬builder.Violation error := by
  rintro (⟨registered, -, again⟩ | ⟨-, chosen, unknown⟩ | ⟨-, -, chosen, unknown⟩)
  · have distinct := consistent.distinct
    rw [registered, List.map_append, List.nodup_append] at distinct
    exact distinct.2.2 _ again _ (List.mem_map_of_mem List.mem_cons_self) rfl
  · exact unknown (consistent.entryPoint _ chosen)
  · exact unknown (consistent.defaultService _ chosen)

theorem fields_of_build {kernel : Kernel} (built : builder.build = .ok kernel) :
    kernel.functions = builder.functions ∧ kernel.services = builder.services ∧
      kernel.entryPoint = builder.entryPoint ∧
      kernel.defaultService.bind (kernel.services[·]?) = builder.standard? := by
  unfold build at built
  split at built
  · cases built
  · split at built
    · cases built
    · cases found : builder.defaultPosition with
      | error error => rw [found] at built; cases built
      | ok position => rw [found] at built; cases built; exact ⟨rfl, rfl, rfl, service_of_defaultPosition found⟩

theorem exists_build_iff : (∃ kernel, builder.build = .ok kernel) ↔ builder.Consistent := by
  constructor
  · rintro ⟨kernel, built⟩
    have sound {error : Error} : ¬builder.Violation error := fun violation => by
      rw [build_eq_error_iff.mpr violation] at built
      cases built
    obtain ⟨same, distinct⟩ := functions_of_build built
    rw [same] at distinct
    have entryPoint : ∀ ref, builder.entryPoint = some ref → ref ∈ builder.functions.map Function.ref :=
      fun ref chosen => Classical.byContradiction fun unknown => sound (.entryPoint distinct chosen unknown)
    exact ⟨distinct, entryPoint, fun modelId chosen => Classical.byContradiction fun unknown =>
      sound (.defaultService distinct entryPoint chosen unknown)⟩
  · intro consistent
    cases built : builder.build with
    | ok kernel => exact ⟨kernel, rfl⟩
    | error error => exact absurd (build_eq_error_iff.mp built) (consistent.not_violation error)

theorem Consistent.isSome_standard? (consistent : builder.Consistent) (served : builder.services ≠ []) :
    builder.standard?.isSome := by
  unfold standard?
  cases chosen : builder.defaultService with
  | none => simpa using served
  | some modelId => simpa using consistent.defaultService modelId chosen

/-! Positions of functions by their names. -/

/-- Enters functions into a table of positions, up to the first one whose name is in it. -/
def enterAll (table : List (FunctionRef × Nat)) (position : Nat) :
    List Function → Except FunctionRef (List (FunctionRef × Nat))
  | [] => .ok table
  | function :: functions =>
    match table.lookup function.ref with
    | some _ => .error function.ref
    | none => enterAll ((function.ref, position) :: table) (position + 1) functions

theorem isSome_lookup_iff {table : List (FunctionRef × Nat)} {ref : FunctionRef} :
    (table.lookup ref).isSome ↔ ref ∈ table.map Prod.fst := by
  induction table with
  | nil => simp
  | cons entry table ih =>
    by_cases same : ref = entry.1
    · simp [same]
    · have unlike : (ref == entry.1) = false := beq_eq_false_iff_ne.mpr same
      rw [List.lookup_cons, unlike, List.map_cons, List.mem_cons, or_iff_right same]
      exact ih

/-- The table is complete exactly if no name comes twice, and then it leads to the functions themselves. -/
theorem enterAll_spec (before functions : List Function) (table : List (FunctionRef × Nat))
    (entered : ∀ ref, (table.lookup ref).bind ((before ++ functions)[·]?) = before.find? (·.ref == ref)) :
    (∀ ref, duplicate? (table.map Prod.fst) functions = some ref →
      enterAll table before.length functions = .error ref) ∧
    (duplicate? (table.map Prod.fst) functions = none →
      ∃ complete, enterAll table before.length functions = .ok complete ∧ ∀ ref,
        (complete.lookup ref).bind ((before ++ functions)[·]?) = (before ++ functions).find? (·.ref == ref)) := by
  induction functions generalizing before table with
  | nil =>
    refine ⟨fun ref found => ?_, fun _ => ⟨table, rfl, by simpa using entered⟩⟩
    cases found
  | cons function functions ih =>
    rw [duplicate?, enterAll]
    cases known : table.lookup function.ref with
    | some position =>
      have again : (table.map Prod.fst).contains function.ref = true := by
        rw [List.contains_iff_mem, ← isSome_lookup_iff, known]
        rfl
      rw [if_pos again]
      refine ⟨fun ref same => congrArg Except.error (Option.some.inj same), fun unrepeated => ?_⟩
      cases unrepeated
    | none =>
      have fresh : function.ref ∉ table.map Prod.fst := by
        rw [← isSome_lookup_iff, known]
        exact Bool.false_ne_true
      rw [if_neg (by simpa using fresh)]
      have whole : before ++ function :: functions = (before ++ [function]) ++ functions := by simp
      have enteredNext : ∀ ref, (((function.ref, before.length) :: table).lookup ref).bind
          ((before ++ [function] ++ functions)[·]?) = (before ++ [function]).find? (·.ref == ref) := by
        intro ref
        rw [← whole, List.find?_append, ← entered ref]
        by_cases same : ref = function.ref
        · subst same
          simp [known]
        · have unlike : (ref == function.ref) = false := beq_eq_false_iff_ne.mpr same
          rw [List.lookup_cons, unlike]
          simp [Ne.symm same]
      have later := ih (before ++ [function]) ((function.ref, before.length) :: table) enteredNext
      rw [List.length_append] at later
      rw [whole]
      exact later

end Builder

theorem Run.within_eq_error_iff {run : Run α} {group name : String} {state : State} {error : Error} :
    (within group name run state).1 = .error error ↔
      ∃ source, (run state).1 = .error source ∧ error = .inFunction group name source := by
  rw [within_apply]
  cases (run state).1 <;> simp [Except.mapError, eq_comm]

namespace Kernel
variable {kernel : Kernel}

/-- The service of a rule is there as the rule accepted it, and the default service is there already. -/
theorem exists_serviceFor (standard : (kernel.defaultService.bind (kernel.services[·]?)).isSome)
    (definition : Definition) :
    ∃ selection service, kernel.serviceFor definition = .ok (selection, service) := by
  obtain ⟨service, standard⟩ := Option.isSome_iff_exists.mp standard
  obtain ⟨position, chosen, there⟩ := Option.bind_eq_some_iff.mp standard
  cases pair : firstPair? (fun rule (service : Service) => rule.accepts service.modelId) definition.rules
      kernel.services with
  | none =>
    refine ⟨⟨position, none⟩, service, serviceFor_eq_ok_iff.mpr ⟨?_, there⟩⟩
    simp [select?, PromptKernel.select?, pair, chosen]
  | some found =>
    obtain ⟨i, j⟩ := found
    obtain ⟨rule, accepted, -, services_at, -⟩ := accepts_of_firstPair? pair
    refine ⟨⟨j, some i⟩, accepted, serviceFor_eq_ok_iff.mpr ⟨?_, services_at⟩⟩
    simp [select?, PromptKernel.select?, pair]

/-! Errors of functions name them, so that the one for a missing service is told from those of functions
further inside. -/

theorem invokeWithin_ne_noBackend (kernel : Kernel) (depth : Nat) (function : Function) (state : State) :
    (kernel.invokeWithin depth function state).1 ≠ .error .noBackendAvailable := by
  cases depth with
  | zero => exact nofun
  | succ depth =>
    intro failed
    obtain ⟨source, -, impossible⟩ := Run.within_eq_error_iff.mp failed
    cases impossible

theorem render_ne_noBackend (kernel : Kernel) (depth : Nat) (source : String) (state : State) :
    (Template.render (kernel.host (kernel.invokeWithin depth)) source state).1 ≠ .error .noBackendAvailable := by
  have legal : Template.Conduct.Legal (fun _ _ outcome _ => outcome ≠ .error .noBackendAvailable)
      (kernel.host (kernel.invokeWithin depth)) := {
    stay _ _ := nofun
    trans _ rest := rest
    note _ _ _ _ := nofun
    fail _ _ error own same := by cases same; cases own
    assign _ _ _ _ := nofun
    refuse _ _ _ _ _ _ _ _ := nofun
    invoke progress state function arguments bindings _ _ _ := by
      have named := kernel.invokeWithin_ne_noBackend depth function { state with bindings }
      rcases ended : kernel.invokeWithin depth function { state with bindings } with ⟨error | result, after⟩
      · rw [ended] at named
        simp only [host, ended]
        rintro ⟨⟩
        exact named rfl
      · simp only [host, ended]
        exact nofun }
  obtain ⟨outcome, allowed, same⟩ := Template.render_follows legal source state
  intro failed
  rw [failed] at same
  cases outcome with
  | error error => cases same; exact allowed rfl
  | ok progress => cases same

theorem template_ne_noBackend {definition : Definition} {selection : Selection} {service : Service}
    (found : kernel.serviceFor definition = .ok (selection, service)) (depth : Nat) (state : State) :
    (kernel.invokeWithin depth (.template definition) state).1 ≠
      .error (.inFunction definition.group definition.name .noBackendAvailable) := by
  cases depth with
  | zero => exact nofun
  | succ depth =>
    intro failed
    obtain ⟨source, own, same⟩ := Run.within_eq_error_iff.mp failed
    cases same
    dsimp only at own
    rw [runTemplate_apply, found] at own
    cases prepared : templateOf definition with
    | error error =>
      rw [prepared] at own
      cases own
      unfold templateOf at prepared
      split at prepared <;> cases prepared
    | ok source =>
      have inside := kernel.render_ne_noBackend depth source state
      rw [prepared] at own
      rcases rendered : Template.render (kernel.host (kernel.invokeWithin depth)) source state with
        ⟨error | text, after⟩
      · simp only [rendered] at own inside
        cases own
        exact inside rfl
      · simp only [rendered] at own
        split at own
        · cases own
        · generalize service.complete after.completions after.arrived _ = answer at own
          rcases answer with ⟨fault | reply, request⟩ <;> cases own

/-- Whatever calls a builder gets, it holds what they register, in their order, and the last choices. A
kernel comes of it exactly if it is consistent, and otherwise the first violation is reported. In the
kernel a name leads to the one function that has it and to none if there is no such function, also by way
of a table of positions that is filled along with the check for repeated names. The default service is
the chosen one or the first one. So the entry point is always found, and once there is a service no
template function fails for want of one. -/
theorem build_iff_consistent {calls : List Builder.Call} {builder : Builder}
    (made : ({} : Builder).follow calls = .ok builder) :
    (∃ parts, Builder.Registers calls parts ∧
      builder.functions = parts.flatMap Builder.functions ∧
      builder.services = parts.flatMap Builder.services ∧
      builder.defaultService = (parts.filterMap Builder.defaultService).getLast? ∧
      builder.entryPoint = (parts.filterMap Builder.entryPoint).getLast?) ∧
    ((∃ kernel, builder.build = .ok kernel) ↔ builder.Consistent) ∧
    (∀ error, builder.build = .error error ↔ builder.Violation error) ∧
    ∀ kernel, builder.build = .ok kernel →
      kernel.functions = builder.functions ∧ kernel.services = builder.services ∧
      kernel.entryPoint = builder.entryPoint ∧
      (∀ ref function, kernel.function ref = .ok function ↔ function ∈ kernel.functions ∧ function.ref = ref) ∧
      (∀ ref error, kernel.function ref = .error error ↔
        ref ∉ kernel.functions.map Function.ref ∧ error = .functionNotFound ref.group ref.name) ∧
      (∃ table, Builder.enterAll [] 0 kernel.functions = .ok table ∧
        ∀ ref, kernel.function? ref = (table.lookup ref).bind (kernel.functions[·]?)) ∧
      kernel.defaultService.bind (kernel.services[·]?) = builder.standard? ∧
      (∀ ref, kernel.entryPoint = some ref →
        ∃ function ∈ kernel.functions, function.ref = ref ∧ kernel.runEntryPoint = kernel.run function) ∧
      (kernel.services ≠ [] → ∀ definition,
        (∃ selection service, kernel.serviceFor definition = .ok (selection, service)) ∧
        ∀ depth state, (kernel.invokeWithin depth (.template definition) state).1 ≠
          .error (.inFunction definition.group definition.name .noBackendAvailable)) := by
  refine ⟨?_, Builder.exists_build_iff, fun error => Builder.build_eq_error_iff, fun kernel built => ?_⟩
  · obtain ⟨parts, registers, rfl⟩ := Builder.exists_parts_of_follow made
    refine ⟨parts, registers, ?_, ?_, ?_, ?_⟩
    · exact Builder.list_foldl_append (fun _ _ => rfl) parts {}
    · exact Builder.list_foldl_append (fun _ _ => rfl) parts {}
    · exact (Builder.choice_foldl_append (fun _ _ => rfl) parts {}).trans Option.or_none
    · exact (Builder.choice_foldl_append (fun _ _ => rfl) parts {}).trans Option.or_none
  · have consistent : builder.Consistent := Builder.exists_build_iff.mp ⟨kernel, built⟩
    obtain ⟨functions, services, entryPoint, standard⟩ := Builder.fields_of_build built
    have distinct : (kernel.functions.map Function.ref).Nodup := by rw [functions]; exact consistent.distinct
    refine ⟨functions, services, entryPoint, fun ref function => function_eq_ok_iff distinct,
      fun ref error => function_eq_error_iff, ?_, standard, ?_, ?_⟩
    · have filled := Builder.enterAll_spec [] kernel.functions [] fun ref => rfl
      have unrepeated : Builder.duplicate? [] kernel.functions = none :=
        (Builder.duplicate?_eq_none_iff [] kernel.functions).mpr ⟨distinct, fun _ _ => List.not_mem_nil⟩
      obtain ⟨table, complete, leads⟩ := filled.2 unrepeated
      exact ⟨table, complete, fun ref => (leads ref).symm⟩
    · intro ref entry
      have known := consistent.entryPoint ref (entryPoint ▸ entry)
      rw [← functions] at known
      obtain ⟨function, member, rfl⟩ := List.mem_map.mp known
      refine ⟨function, member, rfl, ?_⟩
      unfold runEntryPoint
      rw [entry]
      exact callWithin_eq_runWithin (function_of_mem distinct member) depthLimit
    · intro served definition
      have there := consistent.isSome_standard? (services ▸ served)
      rw [← standard] at there
      obtain ⟨selection, service, found⟩ := exists_serviceFor there definition
      exact ⟨⟨selection, service, found⟩, fun depth state => template_ne_noBackend found depth state⟩

def asking : Function := .template { group := "Chat", name := "Ask", template := some "hi" }

def adding : Function := .native { group := "Math", name := "Add" } fun _ => .done .null

def echoing (modelId : String) : Service := .inProcess modelId fun _ _ => .ok ""

/-- The default service is chosen twice, the second time before it is added. -/
theorem build_iff_consistent_chosen_twice :
    let calls : List Builder.Call := [.service (echoing "a"), .function adding, .defaultService "a",
      .entryPoint asking.ref, .function asking, .defaultService "b", .service (echoing "b")]
    let builder : Builder := ⟨[adding, asking], [echoing "a", echoing "b"], some "b", some asking.ref⟩
    let kernel : Kernel := ⟨[adding, asking], [echoing "a", echoing "b"], some 1, some asking.ref⟩
    ({} : Builder).follow calls = .ok builder ∧ builder.build = .ok kernel ∧ builder.Consistent ∧
    kernel.runEntryPoint = kernel.run asking ∧
    ∀ depth state, (kernel.invokeWithin depth asking state).1 ≠
      .error (.inFunction "Chat" "Ask" .noBackendAvailable) := by
  intro calls builder kernel
  have made : ({} : Builder).follow calls = .ok builder := rfl
  have built : builder.build = .ok kernel := rfl
  obtain ⟨-, consistent, -, facts⟩ := build_iff_consistent made
  obtain ⟨-, -, -, found, -, -, -, entry, served⟩ := facts kernel built
  obtain ⟨function, member, same, run⟩ := entry asking.ref rfl
  have asked : function = asking := Except.ok.inj (((found asking.ref function).mpr ⟨member, same⟩).symm.trans
    ((found asking.ref asking).mpr ⟨by simp [kernel], rfl⟩))
  exact ⟨made, built, consistent.mp ⟨kernel, built⟩, asked ▸ run, (served (by simp [kernel]) _).2⟩

end Kernel

end PromptKernel
