import PromptKernel.Proofs.WiderLookups

/-! Two renderings side by side, the second of which has one variable more. Their margins and partial
templates are the same, and so is everything that helpers get to see. -/

namespace PromptKernel

/-- Objects have every key once, at any depth. -/
inductive Json.Proper : Json → Prop
  | null : Proper .null
  | bool : Proper (.bool value)
  | number : Proper (.number value)
  | string : Proper (.string value)
  | array (items : ∀ item ∈ list, Proper item) : Proper (.array list)
  | object (distinct : (Fields.keys fields).Nodup) (values : ∀ entry ∈ fields, Proper entry.2) : Proper (.object fields)

namespace Template

theorem child?_proper {value item : Json} (proper : value.Proper) {key : String}
    (found : child? value key = .ok (some item)) : item.Proper := by
  cases proper with
  | null | bool | number | string => cases found
  | array items =>
    unfold child? at found
    dsimp only at found
    split at found
    · exact items item (List.mem_of_getElem? (Except.ok.inj found))
    · cases found
  | @object fields distinct values =>
    exact values _ (Fields.mem_of_get? (Except.ok.inj found))

theorem follow_proper {value item : Json} (proper : value.Proper) {keys : List String}
    (found : follow value keys = .ok (some item)) : item.Proper := by
  induction keys generalizing value with
  | nil =>
    cases found
    exact proper
  | cons key keys ih =>
    rw [follow] at found
    split at found
    · cases found
    · cases found
    next inner child => exact ih (child?_proper proper child) found

/-- Two renderings with the same functions. The contexts that they start from differ by the one variable,
if at all. -/
structure Twins extends Rules where
  value : Json
  invoke : Function → Run Result
  context : Json
  otherContext : Json
  proper : guarded = true → context.Proper
  calls : ∀ function ∈ functions, ∀ arguments,
    (Helper.dispatch ⟨functions, invoke⟩ function arguments).Ignores name value (assigns function)

namespace Twins

def host (twins : Twins) : Host := ⟨twins.functions, twins.invoke⟩

def setting (twins : Twins) : Setting := ⟨twins.host, twins.context⟩

def otherSetting (twins : Twins) : Setting := ⟨twins.host, twins.otherContext⟩

theorem setting_host (twins : Twins) : twins.setting.host = twins.host := rfl

theorem otherSetting_host (twins : Twins) : twins.otherSetting.host = twins.host := rfl

end Twins

variable (twins : Twins) (watch : Watch)

/-- The second rendering is where the first one is. It has renewed its context if the first one has, and
in any case while variables are left alone. -/
structure Alike (moment other : Moment) : Prop where
  states : moment.state.Widens twins.name twins.value other.state
  coherent : moment.Coherent twins.setting
  otherCoherent : other.Coherent twins.otherSetting
  kept : watch.kept moment.state.bindings
  partials : other.progress.partials = moment.progress.partials
  margin : other.progress.margin = moment.progress.margin
  renewed : other.progress.renewed.isSome = (twins.guarded || moment.progress.renewed.isSome)
  spared : ∀ name elements, moment.progress.partials.named.get? name = some elements →
    ElementsSpare twins.toRules elements (twins.partialScope name)

/-- How two renderings end. While variables are left alone, nothing is said about what fails. -/
inductive Meets (agree : Moment → α → β → Prop) :
    Except Error (α × Progress) × State → Except Error (β × Progress) × State → Prop
  | ok (agreed : agree ⟨later, after⟩ result other)
      (alike : Alike twins watch ⟨later, after⟩ ⟨otherLater, otherAfter⟩) :
      Meets agree (.ok (result, later), after) (.ok (other, otherLater), otherAfter)
  | error (same : twins.guarded = false → outcome.1 = .error error ∧
        after.Widens twins.name twins.value outcome.2 ∧ watch.kept after.bindings) :
      Meets agree (.error error, after) outcome

/-- From two moments on, the second rendering does what the first one does. -/
def Render.Meets (agree : Moment → α → β → Prop) (render : Render α) (other : Render β) (moment otherMoment : Moment) :
    Prop :=
  Template.Meets twins watch agree (render moment.progress moment.state)
    (other otherMoment.progress otherMoment.state)

/-- The second rendering does what the first one does, wherever both are alike. -/
def Render.Twin (agree : α → β → Prop) (render : Render α) (other : Render β) : Prop :=
  ∀ moment otherMoment, Alike twins watch moment otherMoment →
    render.Meets twins watch (fun _ => agree) other moment otherMoment

/-- The second rendering gives what the first one gives. -/
abbrev Same (result other : α) : Prop := other = result

variable {twins watch}

section
variable {moment otherMoment : Moment}

theorem Alike.of_inner {inner : Watch} (more : ∀ bindings, inner.kept bindings → watch.kept bindings)
    (alike : Alike twins inner moment otherMoment) : Alike twins watch moment otherMoment :=
  { alike with kept := more _ alike.kept }

theorem Alike.setMargin (alike : Alike twins watch moment otherMoment) (margin : Margin) : Alike twins watch
    ⟨{ moment.progress with margin }, moment.state⟩ ⟨{ otherMoment.progress with margin }, otherMoment.state⟩ :=
  { alike with margin := rfl }

/-- What a rendering goes on with does not touch the errors of what came before. -/
theorem Meets.next {agree : Moment → α → β → Prop} {further : Moment → γ → δ → Prop}
    {outcome : Except Error (α × Progress) × State} {otherOutcome : Except Error (β × Progress) × State}
    {next : α → Progress → State → Except Error (γ × Progress) × State}
    {otherNext : β → Progress → State → Except Error (δ × Progress) × State}
    (rest : ∀ result otherResult (later otherLater : Moment), agree later result otherResult →
      Alike twins watch later otherLater → Meets twins watch further (next result later.progress later.state)
        (otherNext otherResult otherLater.progress otherLater.state)) :
    Meets twins watch agree outcome otherOutcome → Meets twins watch further
      (match outcome with
        | (.ok (result, later), after) => next result later after
        | (.error fault, after) => (.error fault, after))
      (match otherOutcome with
        | (.ok (result, later), after) => otherNext result later after
        | (.error fault, after) => (.error fault, after)) := by
  intro meets
  cases meets with
  | ok agreed alike => exact rest _ _ _ _ agreed alike
  | error same =>
    obtain ⟨otherOutcome, otherAfter⟩ := otherOutcome
    refine .error fun unguarded => ?_
    obtain ⟨failed, states, kept⟩ := same unguarded
    dsimp only at failed
    rw [failed]
    exact ⟨rfl, states, kept⟩

theorem Meets.of_inner {inner : Watch} (more : ∀ bindings, inner.kept bindings → watch.kept bindings)
    {agree weaker : Moment → α → β → Prop} (implies : ∀ moment result other, agree moment result other →
      weaker moment result other) {outcome : Except Error (α × Progress) × State}
    {otherOutcome : Except Error (β × Progress) × State} (meets : Meets twins inner agree outcome otherOutcome) :
    Meets twins watch weaker outcome otherOutcome := by
  cases meets with
  | ok agreed alike => exact .ok (implies _ _ _ agreed) (alike.of_inner more)
  | error same =>
    refine .error fun unguarded => ?_
    obtain ⟨failed, states, kept⟩ := same unguarded
    exact ⟨failed, states, more _ kept⟩

namespace Render.Meets
variable {render : Render α} {other : Render β}

theorem bind {agree : Moment → α → β → Prop} {further : Moment → γ → δ → Prop} {next : α → Render γ}
    {otherNext : β → Render δ} (first : render.Meets twins watch agree other moment otherMoment)
    (rest : ∀ result otherResult later otherLater, agree later result otherResult →
      Alike twins watch later otherLater →
        (next result).Meets twins watch further (otherNext otherResult) later otherLater) :
    (render >>= next).Meets twins watch further (other >>= otherNext) moment otherMoment := by
  unfold Render.Meets
  rw [Render.bind_apply, Render.bind_apply]
  exact Template.Meets.next rest first

theorem imp {agree weaker : Moment → α → β → Prop} (meets : render.Meets twins watch agree other moment otherMoment)
    (implies : ∀ moment result other, agree moment result other → weaker moment result other) :
    render.Meets twins watch weaker other moment otherMoment :=
  Template.Meets.of_inner (fun _ kept => kept) implies meets

theorem of_inner {inner : Watch} (more : ∀ bindings, inner.kept bindings → watch.kept bindings)
    {agree : Moment → α → β → Prop} (meets : render.Meets twins inner agree other moment otherMoment) :
    render.Meets twins watch agree other moment otherMoment :=
  Template.Meets.of_inner more (fun _ _ _ agreed => agreed) meets

theorem pure {agree : Moment → α → β → Prop} (alike : Alike twins watch moment otherMoment) {result : α}
    {otherResult : β} (agreed : agree moment result otherResult) :
    (Pure.pure result : Render α).Meets twins watch agree (Pure.pure otherResult) moment otherMoment :=
  .ok agreed alike

theorem part (enter : Margin → Margin) {render other : Render α} (alike : Alike twins watch moment otherMoment)
    (inside : ∀ margin, render.Meets twins watch (fun _ => Same) other
      ⟨{ moment.progress with margin }, moment.state⟩ ⟨{ otherMoment.progress with margin }, otherMoment.state⟩) :
    (Render.part enter render).Meets twins watch (fun _ => Same) (Render.part enter other) moment otherMoment := by
  unfold Render.Meets
  rw [Render.part_apply, Render.part_apply, alike.margin]
  refine Template.Meets.next (fun result otherResult later otherLater agreed after => ?_)
    (inside (enter moment.progress.margin))
  rw [after.margin]
  exact .ok agreed (after.setMargin _)

theorem locally {render other : Render α} (alike : Alike twins watch moment otherMoment)
    (inside : render.Meets twins watch (fun _ => Same) other moment otherMoment) :
    (Render.locally render).Meets twins watch (fun _ => Same) (Render.locally other) moment otherMoment := by
  unfold Render.Meets
  rw [Render.locally_apply, Render.locally_apply, alike.partials]
  refine Template.Meets.next (fun result otherResult later otherLater agreed after => ?_) inside
  exact .ok agreed { after with partials := rfl, spared := alike.spared }

end Render.Meets

end

namespace Render.Twin

theorem bind {agree : α → β → Prop} {further : γ → δ → Prop} {render : Render α} {other : Render β}
    {next : α → Render γ} {otherNext : β → Render δ} (first : render.Twin twins watch agree other)
    (rest : ∀ result otherResult, agree result otherResult →
      (next result).Twin twins watch further (otherNext otherResult)) :
    (render >>= next).Twin twins watch further (other >>= otherNext) :=
  fun moment otherMoment alike =>
    (first moment otherMoment alike).bind fun result otherResult later otherLater agreed =>
      rest result otherResult agreed later otherLater

theorem pure {agree : α → β → Prop} {result : α} {other : β} (agreed : agree result other) :
    (Pure.pure result : Render α).Twin twins watch agree (Pure.pure other) :=
  fun _ _ alike => .pure alike agreed

theorem fail (agree : α → β → Prop) (error : Error) :
    (Render.fail error : Render α).Twin twins watch agree (Render.fail error : Render β) :=
  fun _ _ alike => .error fun _ => ⟨rfl, alike.states, alike.kept⟩

theorem emit (text : String) : (Render.emit text).Twin twins watch Same (Render.emit text) := by
  intro moment otherMoment alike
  unfold Render.Meets
  rw [Render.emit_apply, Render.emit_apply, alike.margin]
  exact .ok rfl (alike.setMargin _)

theorem part (enter : Margin → Margin) {render other : Render α} (inside : render.Twin twins watch Same other) :
    (Render.part enter render).Twin twins watch Same (Render.part enter other) :=
  fun _ _ alike => .part enter alike fun margin => inside _ _ (alike.setMargin margin)

theorem locally {render other : Render α} (inside : render.Twin twins watch Same other) :
    (Render.locally render).Twin twins watch Same (Render.locally other) :=
  fun _ _ alike => .locally alike (inside _ _ alike)

theorem lookup {name : String} (apart : name ≠ twins.name) :
    (Render.ofRun (Run.lookup name)).Twin twins watch Same (Render.ofRun (Run.lookup name)) :=
  fun _ _ alike => .ok (alike.states.bindings.same name apart) alike

/-- A run that everything after it sees the variables of. -/
theorem renewing {run : Run α} {free : String → Prop} (ignores : run.Ignores twins.name twins.value free)
    (allowed : ∀ name, free name → watch.free name) (f : α → β) :
    (do let result ← Render.ofRun run; Render.renew; return f result : Render β).Twin twins watch Same
      (do let result ← Render.ofRun run; Render.renew; return f result : Render β) := by
  intro moment otherMoment alike
  obtain ⟨same, widens, agree⟩ := ignores moment.state otherMoment.state alike.states
  have kept := watch.stable (agree.mono allowed) alike.kept
  unfold Render.Meets
  rw [Render.bind_apply, Render.bind_apply, Render.ofRun_apply, Render.ofRun_apply]
  rcases ran : run moment.state with ⟨error | result, after⟩ <;>
    rcases otherRan : run otherMoment.state with ⟨other, otherAfter⟩ <;>
    simp only [ran, otherRan] at same widens kept ⊢ <;> subst same
  · exact .error fun _ => ⟨rfl, widens, kept⟩
  · refine .ok rfl { alike with states := widens, coherent := rfl, otherCoherent := rfl, kept, renewed := ?_ }
    exact (Bool.or_true _).symm

end Render.Twin

end Template

end PromptKernel
