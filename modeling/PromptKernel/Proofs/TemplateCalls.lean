import PromptKernel.Proofs.RenderDispatches

/-! Calls of template functions. The format, the template and the service are settled before
anything happens. The rendering then makes whatever calls the template asks for, and the function
itself asks its service once, after all of them, unless the rendering fails or the run is
cancelled by then. -/

namespace PromptKernel

theorem accepts_of_firstPair? {accepts : ρ → σ → Bool} {rules : List ρ} {services : List σ} {i j : Nat}
    (found : firstPair? accepts rules services = some (i, j)) :
    ∃ rule service, rules[i]? = some rule ∧ services[j]? = some service ∧ accepts rule service = true := by
  induction rules generalizing i with
  | nil => cases found
  | cons rule rules ih =>
    rw [firstPair?] at found
    split at found
    next accepted =>
      cases found
      obtain ⟨inside, holds, -⟩ := List.findIdx?_eq_some_iff_getElem.mp accepted
      exact ⟨rule, services[j], rfl, List.getElem?_eq_getElem inside, holds⟩
    next =>
      obtain ⟨⟨i', j'⟩, later, same⟩ := Option.map_eq_some_iff.mp found
      cases same
      exact ih later

/-- The parameters that a choice of this service sends along: those of the rule that accepts it, or
none for the default service. -/
inductive Selection.Sends (kernel : Kernel) (rules : List Rule) (service : Service) :
    Selection → Fields Json → Prop
  | byRule {chosen : Rule} (found : rules[i]? = some chosen)
      (accepted : chosen.accepts service.modelId = true) :
      Sends kernel rules service ⟨j, some i⟩ chosen.parameters
  | byDefault (standard : kernel.defaultService = some j) : Sends kernel rules service ⟨j, none⟩ []

namespace Kernel
open Template

variable {kernel : Kernel}

theorem serviceFor_eq_ok_iff {definition : Definition} {selection : Selection} {service : Service} :
    kernel.serviceFor definition = .ok (selection, service) ↔
      kernel.select? definition.rules = some selection ∧
        kernel.services[selection.service]? = some service := by
  unfold serviceFor
  cases kernel.select? definition.rules with
  | none => simp
  | some chosen =>
    cases found : kernel.services[chosen.service]? with
    | none =>
      simp only [found, reduceCtorEq, Option.some.injEq, false_iff, not_and]
      rintro rfl
      simp [found]
    | some other =>
      simp only [found, Except.ok.injEq, Prod.mk.injEq, Option.some.injEq]
      constructor
      · rintro ⟨rfl, rfl⟩
        exact ⟨rfl, found⟩
      · rintro ⟨rfl, same⟩
        exact ⟨rfl, Option.some.inj (found.symm.trans same)⟩

theorem noBackend_of_serviceFor {definition : Definition} {error : Error}
    (refused : kernel.serviceFor definition = .error error) :
    error = .noBackendAvailable ∧ ∀ selection, kernel.select? definition.rules = some selection →
      kernel.services[selection.service]? = none := by
  unfold serviceFor at refused
  split at refused
  next absent =>
    cases refused
    exact ⟨rfl, fun selection found => by rw [absent] at found; cases found⟩
  next selection chosen =>
    split at refused
    next missing =>
      cases refused
      refine ⟨rfl, fun other found => ?_⟩
      obtain rfl := Option.some.inj (chosen.symm.trans found)
      exact missing
    next => cases refused

theorem sends_of_select? {rules : List Rule} {selection : Selection} {service : Service}
    (chosen : kernel.select? rules = some selection)
    (found : kernel.services[selection.service]? = some service) :
    Selection.Sends kernel rules service selection (selection.parameters rules) := by
  unfold select? PromptKernel.select? at chosen
  split at chosen
  next i j pair =>
    cases chosen
    obtain ⟨rule, accepted, rules_at, services_at, holds⟩ := accepts_of_firstPair? pair
    obtain rfl := Option.some.inj (services_at.symm.trans found)
    simpa [Selection.parameters, rules_at] using Selection.Sends.byRule rules_at holds
  next =>
    obtain ⟨j, standard, rfl⟩ := Option.map_eq_some_iff.mp chosen
    exact .byDefault standard

/-- One call of a template function, at any depth of a tree of calls. A wrong format, a missing
template and a missing service are reported in this order, whatever the functions of the kernel
do, and leave everything as it was. Otherwise the record of the call is made up of what the
functions called by the template asked, and of one request of its own behind that. -/
theorem template_call_protocol (kernel : Kernel) (depth : Nat) (definition : Definition) (start : State) :
    let run (invoke : Invoke) := kernel.execute invoke (.template definition) start
    let failed (error : Error) : Except Error Result :=
      .error (.inFunction definition.group definition.name error)
    match definition.format, definition.template, kernel.serviceFor definition with
    | .other format, _, _ => ∀ invoke, run invoke = (failed (.unsupportedFormat format), start)
    | .handlebars, none, _ =>
      ∀ invoke, run invoke = (failed (.malformedDescriptor (.noTemplate definition.name)), start)
    | .handlebars, some _, .error _ =>
      (∀ selection, kernel.select? definition.rules = some selection →
        kernel.services[selection.service]? = none) ∧
      ∀ invoke, run invoke = (failed .noBackendAvailable, start)
    | .handlebars, some template, .ok (selection, service) =>
      let invoke := kernel.invokeWithin depth
      let rendered := Template.render (kernel.host invoke) template start
      let after := rendered.2
      (∃ dispatches, Dispatches (kernel.host invoke) start dispatches after ∧
        after.completions = start.completions ++ dispatches.flatMap Dispatch.requests) ∧
      match rendered.1 with
      | .error error => run invoke = (failed error, after)
      | .ok text =>
        if after.cancelled then run invoke = (failed .cancelled, after)
        else
          ∃ completion : Completion,
            kernel.select? definition.rules = some selection ∧
            kernel.services[selection.service]? = some service ∧
            completion.service = selection.service ∧
            completion.modelId = service.modelId ∧
            completion.turns = Transcript.extract ("<request>" ++ text ++ "</request>") ∧
            selection.Sends kernel definition.rules service completion.parameters ∧
            let answer := service.complete after.completions after.arrived completion
            run invoke =
              (match answer.1 with
                | .ok reply => .ok ⟨definition.group, definition.name, .string reply, some service.modelId⟩
                | .error fault => failed (.backendFailure service.modelId fault),
              { after with
                completions := after.completions ++ [completion]
                arrived := after.arrived ++ answer.2.toList }) := by
  have unfolded (invoke : Invoke) : kernel.execute invoke (.template definition) start =
      ((kernel.runTemplate invoke definition start).1.mapError
        (.inFunction definition.group definition.name), (kernel.runTemplate invoke definition start).2) :=
    Run.within_apply ..
  dsimp only
  split
  next format _ _ other =>
    intro invoke
    rw [unfolded, runTemplate_apply]
    simp only [templateOf, other]
    rfl
  next usual absent =>
    intro invoke
    rw [unfolded, runTemplate_apply]
    simp only [templateOf, usual, absent]
    rfl
  next template error usual present refused =>
    obtain ⟨rfl, unavailable⟩ := noBackend_of_serviceFor refused
    refine ⟨unavailable, fun invoke => ?_⟩
    rw [unfolded, runTemplate_apply]
    simp only [templateOf, usual, present, refused]
    rfl
  next template selection service usual present found =>
    obtain ⟨chosen, position⟩ := serviceFor_eq_ok_iff.mp found
    have settled : templateOf definition = .ok template := by simp [templateOf, usual, present]
    have records (function : Function) : Run.Makes State.Records (kernel.invokeWithin depth function) :=
      kernel.invokeWithin_makes State.records_legal depth function
    obtain ⟨dispatches, steps⟩ :=
      Template.render_dispatches (kernel.host (kernel.invokeWithin depth)) template start
    refine ⟨⟨dispatches, steps, steps.completions_eq records⟩, ?_⟩
    rw [unfolded, runTemplate_apply, settled, found]
    dsimp only
    rcases Template.render (kernel.host (kernel.invokeWithin depth)) template start with ⟨error | text, after⟩
    · rfl
    · dsimp only
      split
      · rfl
      · refine ⟨⟨selection.service, service.modelId, Transcript.extract (Transcript.request text),
          selection.parameters definition.rules⟩, chosen, position, rfl, rfl, rfl,
          sends_of_select? chosen position, ?_⟩
        generalize service.complete after.completions after.arrived _ = answer
        rcases answer with ⟨fault | reply, request⟩ <;> rfl

end Kernel

end PromptKernel
