import PromptKernel.Template.Render

/-! What renderings may do, step by step. A rendering changes the variables of its run, calls
functions, and keeps notes of its own on margins and partial templates; nothing else reaches the
run. A conduct that allows these steps and sequences of them is followed by every rendering. -/

namespace PromptKernel

/-- The errors that renderings raise themselves, as against those of the functions that they call. -/
def Error.ofRendering : Error → Bool
  | template _ | invalidHelperArguments _ _ | missingRequiredParameter _ _ | missingRole | unknownHelper _ => true
  | _ => false

theorem Definition.ofRendering_of_bind {definition : Definition} {arguments : Option (Fields Json)}
    {bindings : Fields Json} {error : Error} (refused : definition.bind arguments bindings = .error error) :
    error.ofRendering = true := by
  unfold Definition.bind at refused
  split at refused
  · cases refused; rfl
  · cases refused

namespace Template

namespace Render

theorem bind_apply (render : Render α) (next : α → Render β) (progress : Progress) (state : State) :
    (render >>= next) progress state = match render progress state with
      | (.ok (value, later), after) => next value later after
      | (.error error, after) => (.error error, after) := by
  change ((render progress >>= fun (value, later) => next value later : Run _) state) = _
  rw [Run.bind_apply]
  rcases render progress state with ⟨error | ⟨value, later⟩, after⟩ <;> rfl

theorem ofRun_apply (run : Run α) (progress : Progress) (state : State) :
    ofRun run progress state = ((run state).1.map fun value => (value, progress), (run state).2) := by
  change ((run >>= fun value => pure (value, progress) : Run _) state) = _
  rw [Run.bind_apply]
  rcases run state with ⟨error | value, after⟩ <;> rfl

theorem emit_apply (text : String) (progress : Progress) (state : State) :
    emit text progress state =
      (.ok (String.ofList (progress.margin.write text.toList).1,
        { progress with margin := (progress.margin.write text.toList).2 }), state) := rfl

theorem part_apply (enter : Margin → Margin) (render : Render α) (progress : Progress) (state : State) :
    part enter render progress state =
      match render { progress with margin := enter progress.margin } state with
      | (.ok (value, later), after) =>
        (.ok (value, { later with margin := progress.margin.leave later.margin }), after)
      | (.error error, after) => (.error error, after) := by
  change ((render >>= fun value => (do
      modify fun later => { later with margin := progress.margin.leave later.margin }
      return value : Render α)) { progress with margin := enter progress.margin } state) = _
  rw [bind_apply]
  rcases render { progress with margin := enter progress.margin } state with ⟨error | ⟨value, later⟩, after⟩ <;> rfl

theorem locally_apply (render : Render α) (progress : Progress) (state : State) :
    locally render progress state =
      match render progress state with
      | (.ok (value, later), after) => (.ok (value, { later with partials := progress.partials }), after)
      | (.error error, after) => (.error error, after) := by
  change ((render >>= fun value => (do
      modify fun later => { later with partials := progress.partials }
      return value : Render α)) progress state) = _
  rw [bind_apply]
  rcases render progress state with ⟨error | ⟨value, later⟩, after⟩ <;> rfl

end Render

/-- What one stretch of a rendering may do: the progress and the state before it, the progress or
the error it ends with, and the state after it. -/
abbrev Conduct := Progress → State → Except Error Progress → State → Prop

/-- The steps that a rendering takes. It raises only errors of its own kinds itself. Bindings
that a call makes stay when the call is refused after all. -/
structure Conduct.Legal (conduct : Conduct) (host : Host) : Prop where
  stay : ∀ progress state, conduct progress state (.ok progress) state
  trans : ∀ {progress state later middle outcome after}, conduct progress state (.ok later) middle →
    conduct later middle outcome after → conduct progress state outcome after
  note : ∀ progress later state, later.renewed = progress.renewed → conduct progress state (.ok later) state
  fail : ∀ progress state error, error.ofRendering = true → conduct progress state (.error error) state
  assign : ∀ progress (state : State) name value,
    let bindings := state.bindings.insert name value
    conduct progress state (.ok { progress with renewed := some (.object bindings) }) { state with bindings }
  refuse : ∀ progress (state : State) function arguments bindings, function ∈ host.functions →
    function.definition.bind (some arguments) state.bindings = .ok bindings → state.cancelled = true →
    conduct progress state (.error .cancelled) { state with bindings }
  invoke : ∀ progress (state : State) function arguments bindings, function ∈ host.functions →
    function.definition.bind (some arguments) state.bindings = .ok bindings → state.cancelled = false →
    let result := host.invoke function { state with bindings }
    conduct progress state
      (result.1.map fun _ => { progress with renewed := some (.object result.2.bindings) }) result.2

/-- Whatever happens in the rendering, it is allowed. -/
def Follows (conduct : Conduct) (render : Render α) : Prop :=
  ∀ progress state, conduct progress state ((render progress state).1.map Prod.snd) (render progress state).2

section
variable {host : Host} {conduct : Conduct} (legal : conduct.Legal host)

namespace Follows
include legal

theorem pure (value : α) : Follows conduct (pure value : Render α) := legal.stay

theorem fail {error : Error} (own : error.ofRendering = true) : Follows conduct (Render.fail error : Render α) :=
  fun progress state => legal.fail progress state error own

theorem bind {render : Render α} {next : α → Render β} (first : Follows conduct render)
    (rest : ∀ value, Follows conduct (next value)) : Follows conduct (render >>= next) := by
  intro progress state
  have begun := first progress state
  rw [Render.bind_apply]
  rcases done : render progress state with ⟨error | ⟨value, later⟩, after⟩
  · simpa only [done, Except.map] using begun
  · exact legal.trans (by simpa only [done, Except.map] using begun) (rest value later after)

theorem get : Follows conduct (get : Render Progress) := legal.stay

theorem modify {change : Progress → Progress} (kept : ∀ progress, (change progress).renewed = progress.renewed) :
    Follows conduct (modify change : Render Unit) :=
  fun progress state => legal.note progress (change progress) state (kept progress)

theorem ofRun {run : Run α} (kept : ∀ state, (run state).2 = state)
    (own : ∀ state error, (run state).1 = .error error → error.ofRendering = true) :
    Follows conduct (Render.ofRun run) := by
  intro progress state
  rw [Render.ofRun_apply, kept]
  cases done : (run state).1 with
  | error error => exact legal.fail progress state error (own state error done)
  | ok value => exact legal.stay progress state

theorem lookup (name : String) : Follows conduct (Render.ofRun (Run.lookup name)) :=
  ofRun legal (fun _ => rfl) (fun _ _ impossible => nomatch impossible)

theorem emit (text : String) : Follows conduct (Render.emit text) :=
  bind legal (get legal) fun _ => bind legal (modify legal fun _ => rfl) fun _ => pure legal _

theorem part {enter : Margin → Margin} {render : Render α} (inside : Follows conduct render) :
    Follows conduct (Render.part enter render) :=
  bind legal (get legal) fun _ => bind legal (modify legal fun _ => rfl) fun _ =>
    bind legal inside fun _ => bind legal (modify legal fun _ => rfl) fun _ => pure legal _

theorem locally {render : Render α} (inside : Follows conduct render) :
    Follows conduct (Render.locally render) :=
  bind legal (get legal) fun _ => bind legal inside fun _ =>
    bind legal (modify legal fun _ => rfl) fun _ => pure legal _

end Follows

/-! Helpers. -/

structure Call.Follows (conduct : Conduct) (call : Call) : Prop where
  body : ∀ part ∈ call.body, ∀ blocks, Template.Follows conduct (part blocks)
  inverse : ∀ part ∈ call.inverse, ∀ blocks, Template.Follows conduct (part blocks)

theorem Call.Follows.of_no_parts {call : Call} (body : call.body = none) (inverse : call.inverse = none) :
    call.Follows conduct := by
  constructor
  · intro part member; rw [body] at member; cases member
  · intro part member; rw [inverse] at member; cases member

/-- A helper for a function is there for a function that can be called. -/
def Helper.Registered (helper : Helper) (host : Host) : Prop :=
  ∀ function, helper = .function function → function ∈ host.functions

theorem Helper.builtin?_ne_function (name : String) (function : Function) :
    Helper.builtin? name ≠ some (.function function) := by
  unfold Helper.builtin?
  split <;> simp

theorem Helper.registered_of_ofName? {host : Host} {name : String} {helper : Helper}
    (found : Helper.ofName? host.functions name = some helper) : helper.Registered host := by
  rintro function rfl
  unfold Helper.ofName? at found
  split at found
  next f same =>
    obtain rfl : f = function := by simpa using found
    exact List.mem_reverse.mp (List.mem_of_find?_eq_some same)
  next => exact absurd found (Helper.builtin?_ne_function name function)

theorem Helper.ofRendering_of_functionArguments {call : Call} {error : Error}
    (refused : Helper.functionArguments call = .error error) : error.ofRendering = true := by
  unfold Helper.functionArguments at refused
  dsimp only at refused
  split at refused <;> cases refused <;> rfl

/-- Bindings come first, then the check for cancellation, then the call itself. -/
theorem Helper.dispatch_apply (host : Host) (function : Function) (arguments : Fields Json) (state : State) :
    Helper.dispatch host function arguments state =
      match function.definition.bind (some arguments) state.bindings with
      | .error error => (.error error, state)
      | .ok bindings =>
        if state.cancelled then (.error .cancelled, { state with bindings })
        else host.invoke function { state with bindings } := by
  change ((Run.ofExcept (function.definition.bind (some arguments) state.bindings) >>= fun bindings => do
    Run.setBindings bindings
    Run.checkCancelled
    host.invoke function : Run _) state) = _
  rw [Run.bind_apply, Run.ofExcept_apply]
  cases function.definition.bind (some arguments) state.bindings with
  | error error => rfl
  | ok bindings =>
    exact Run.checkCancelled_bind (fun _ => host.invoke function) { state with bindings }

/-- Once a function has returned, everything after it sees the variables it left. -/
theorem Helper.callFunction_apply (host : Host) (function : Function) (call : Call) (progress : Progress)
    (state : State) : Helper.callFunction host function call progress state =
      match Helper.functionArguments call with
      | .error error => (.error error, state)
      | .ok arguments =>
        match Helper.dispatch host function arguments state with
        | (.error error, after) => (.error error, after)
        | (.ok result, after) => (.ok (result, { progress with renewed := some (.object after.bindings) }), after) := by
  unfold Helper.callFunction
  rw [Render.bind_apply, Render.ofRun_apply, Run.bind_apply, Run.ofExcept_apply]
  cases Helper.functionArguments call with
  | error error => rfl
  | ok arguments =>
    dsimp only
    rcases Helper.dispatch host function arguments state with ⟨error | result, after⟩ <;> rfl

/-- The block for a value, which may have a name in its body. -/
def valueBlock (found : Found) (names : List String) : Block :=
  { Helper.blockOf found with
    names := match names, found with
      | [name], .place _ _ => [(name, Named.item)]
      | [name], found => [(name, .value found.json)]
      | _, _ => [] }

theorem writeWithin_eq (call : Call) : Helper.writeWithin call = (do
    let value ← call.param 0
    if isTrue false value.json then
      Render.locally (Call.part call.body (valueBlock value call.names :: call.blocks))
    else call.writeInverse) := rfl

namespace Follows
include legal

theorem callPart {part : Option (List Block → Render String)}
    (parts : ∀ p ∈ part, ∀ blocks, Follows conduct (p blocks)) (blocks : List Block) :
    Follows conduct (Call.part part blocks) := by
  cases part with
  | none => exact pure legal _
  | some part => exact parts part rfl blocks

theorem param (call : Call) (position : Nat) : Follows conduct (call.param position) := by
  unfold Call.param
  split
  · exact pure legal _
  · exact fail legal rfl

theorem writeMessage {call : Call} (parts : call.Follows conduct) :
    Follows conduct (Helper.writeMessage call) := by
  unfold Helper.writeMessage
  split
  · exact bind legal (lookup legal "message") fun _ => pure legal _
  · split
    · split
      · exact fail legal rfl
      · exact bind legal (callPart legal parts.body _) fun _ => pure legal _
    · exact fail legal rfl

theorem variableName (call : Call) : Follows conduct (Helper.variableName call) := by
  unfold Helper.variableName
  split
  · split
    · exact fail legal rfl
    · exact pure legal _
  · exact fail legal rfl

theorem assign (call : Call) : Follows conduct (Helper.assign call) := by
  refine bind legal (variableName legal call) fun name => ?_
  exact fun progress state => legal.assign progress state name _

theorem variableValue (call : Call) : Follows conduct (Helper.variableValue call) :=
  bind legal (variableName legal call) fun name => bind legal (lookup legal name) fun _ => pure legal _

theorem areEqual (call : Call) : Follows conduct (Helper.areEqual call) := by
  unfold Helper.areEqual
  split
  · exact pure legal _
  · exact fail legal rfl

theorem callFunction {function : Function} (member : function ∈ host.functions) (call : Call) :
    Follows conduct (Helper.callFunction host function call) := by
  intro progress state
  rw [Helper.callFunction_apply]
  cases evaluated : Helper.functionArguments call with
  | error error => exact legal.fail progress state error (Helper.ofRendering_of_functionArguments evaluated)
  | ok arguments =>
    dsimp only
    rw [Helper.dispatch_apply]
    cases bound : function.definition.bind (some arguments) state.bindings with
    | error error => exact legal.fail progress state error (Definition.ofRendering_of_bind bound)
    | ok bindings =>
      dsimp only
      by_cases cancelled : state.cancelled = true
      · rw [if_pos cancelled]
        exact legal.refuse progress state function arguments bindings member bound cancelled
      · rw [if_neg cancelled]
        have called := legal.invoke progress state function arguments bindings member bound
          (Bool.eq_false_iff.mpr cancelled)
        rcases done : host.invoke function { state with bindings } with ⟨error | result, after⟩ <;>
          simpa only [done, Except.map] using called

theorem writeMissing (host : Host) (call : Call) : Follows conduct (Helper.writeMissing host call) := by
  unfold Helper.writeMissing
  split
  · exact pure legal _
  · exact fail legal rfl

theorem writeCondition (positive : Bool) {call : Call} (parts : call.Follows conduct) :
    Follows conduct (Helper.writeCondition positive call) := by
  refine bind legal (param legal call 0) fun value => ?_
  dsimp only
  split
  · exact callPart legal parts.body _
  · exact callPart legal parts.inverse _

theorem writeWithin {call : Call} (parts : call.Follows conduct) :
    Follows conduct (Helper.writeWithin call) := by
  refine bind legal (param legal call 0) fun value => ?_
  split
  · exact locally legal (callPart legal parts.body _)
  · exact callPart legal parts.inverse _

theorem writeItems {body : List Block → Render String} (inside : ∀ blocks, Follows conduct (body blocks))
    (call : Call) (collection : Found) (position : Nat) (items : List Helper.Item) :
    Follows conduct (Helper.writeItems call collection body position items) := by
  induction items generalizing position with
  | nil => exact pure legal _
  | cons item items ih =>
    exact bind legal (inside _) fun _ => bind legal (ih (position + 1)) fun _ => pure legal _

theorem writeEach {call : Call} (parts : call.Follows conduct) :
    Follows conduct (Helper.writeEach call) := by
  refine bind legal (param legal call 0) fun collection => ?_
  split
  · exact pure legal _
  next body item items same _ =>
    exact locally legal (writeItems legal (parts.body body same) call collection 0 (item :: items))
  · exact callPart legal parts.inverse _

theorem member (call : Call) : Follows conduct (Helper.member call) :=
  bind legal (param legal call 0) fun _ => bind legal (param legal call 1) fun _ => pure legal _

theorem writeLog (call : Call) : Follows conduct (Helper.writeLog call) := by
  unfold Helper.writeLog
  dsimp only
  split
  · exact pure legal _
  · exact fail legal rfl

theorem truth {helper : Helper} {call : Call} {truth : Render Bool} (found : helper.truth? call = some truth) :
    Follows conduct truth := by
  cases helper <;> simp only [Helper.truth?, Option.some.injEq, reduceCtorEq] at found <;> subst found
  case relation r =>
    exact bind legal (param legal call 0) fun _ => bind legal (param legal call 1) fun _ => pure legal _
  case conjunction | disjunction => exact pure legal _
  case negation => exact bind legal (param legal call 0) fun _ => pure legal _

theorem writeTruth {call : Call} (parts : call.Follows conduct) (holds : Bool) :
    Follows conduct (Helper.writeTruth call holds) := by
  unfold Helper.writeTruth
  split
  · exact pure legal _
  · split
    · exact callPart legal parts.body _
    · exact callPart legal parts.inverse _

theorem value {helper : Helper} (registered : helper.Registered host) {call : Call} {value : Render Json}
    (found : helper.value? host call = some value) : Follows conduct value := by
  unfold Helper.value? at found
  split at found
  · cases found; exact variableValue legal call
  · cases found; exact bind legal (areEqual legal call) fun _ => pure legal _
  · cases found; exact member legal call
  · cases found; exact bind legal (param legal call 0) fun _ => pure legal _
  · cases found; exact bind legal (callFunction legal (registered _ rfl) call) fun _ => pure legal _
  · obtain ⟨truth, same, rfl⟩ := Option.map_eq_some_iff.mp found
    exact bind legal (Follows.truth legal same) fun _ => pure legal _

theorem write {helper : Helper} (registered : helper.Registered host) {call : Call}
    (parts : call.Follows conduct) : Follows conduct (helper.write host call) := by
  unfold Helper.write
  split
  · exact writeMessage legal parts
  · exact assign legal call
  · exact bind legal (variableValue legal call) fun _ => pure legal _
  · exact pure legal _
  · exact bind legal (areEqual legal call) fun _ => pure legal _
  · exact callPart legal parts.body _
  · exact writeMissing legal host call
  · exact writeCondition legal _ parts
  · exact writeEach legal parts
  · exact writeWithin legal parts
  · exact bind legal (member legal call) fun _ => emit legal _
  · exact bind legal (param legal call 0) fun _ => emit legal _
  · exact writeLog legal call
  · exact bind legal (callFunction legal (registered _ rfl) call) fun _ => pure legal _
  · split
    next truth found => exact bind legal (Follows.truth legal found) fun _ => writeTruth legal parts _
    next => exact pure legal _

theorem evaluate {helper : Helper} (registered : helper.Registered host) {call : Call}
    (parts : call.Follows conduct) : Follows conduct (helper.evaluate host call) := by
  unfold Helper.evaluate
  split
  next value found => exact Follows.value legal registered found
  next => exact bind legal (write legal registered parts) fun _ => pure legal _

end Follows

/-! Lookups fail only on keys of arrays. -/

theorem eq_invalidIndex_of_follow {value : Json} {keys : List String} {error : Error}
    (refused : follow value keys = .error error) : ∃ key, error = .template (.invalidIndex key) := by
  induction keys generalizing value with
  | nil => cases refused
  | cons key keys ih =>
    rw [follow] at refused
    split at refused
    next fault found =>
      cases refused
      unfold child? at found
      split at found
      · split at found
        · cases found
        · cases found; exact ⟨key, rfl⟩
      · cases found
      · cases found
    next => cases refused
    next => exact ih refused

theorem eq_invalidIndex_of_lookup {context : Json} {blocks : List Block} {path : Path} {error : Error}
    (refused : lookup context blocks path = .error error) : ∃ key, error = .template (.invalidIndex key) := by
  have mapped {value : Json} {keys : List String} {view : Option Json → Found}
      (refused : (follow value keys).map view = .error error) : ∃ key, error = .template (.invalidIndex key) := by
    cases found : follow value keys with
    | error fault =>
      rw [found] at refused
      cases refused
      exact eq_invalidIndex_of_follow found
    | ok value => rw [found] at refused; cases refused
  unfold lookup at refused
  split at refused
  · split at refused <;> cases refused
  · split at refused <;> exact mapped refused

/-- What is left of a value that was found. In a context that has been renewed it has no place. -/
def Progress.seen (progress : Progress) (found : Found) : Found :=
  match progress.renewed with
  | none => found
  | some _ => .value found.json

theorem Progress.seen_json (progress : Progress) (found : Found) : (progress.seen found).json = found.json := by
  unfold seen
  cases progress.renewed <;> rfl

theorem resolve_apply (setting : Setting) (blocks : List Block) (path : Path) (progress : Progress) (state : State) :
    resolve setting blocks path progress state =
      ((lookup (progress.renewed.getD setting.context) blocks path).map fun found => (progress.seen found, progress),
        state) := by
  unfold resolve Progress.seen
  rw [Render.bind_apply]
  change (match progress.renewed with
    | none => Render.ofRun (Run.ofExcept (lookup setting.context blocks path))
    | some context => (do return .value (← Render.ofRun (Run.ofExcept (lookup context blocks path))).json)
      : Render Found) progress state = _
  cases progress.renewed with
  | none => simp only [Render.ofRun_apply, Run.ofExcept_apply, Option.getD_none]
  | some context =>
    simp only [Render.bind_apply, Render.ofRun_apply, Run.ofExcept_apply, Option.getD_some]
    cases lookup context blocks path <;> rfl

theorem Helper.registered_getD (host : Host) (name : String) :
    ((Helper.ofName? host.functions name).getD .missing).Registered host := by
  cases found : Helper.ofName? host.functions name with
  | none => intro function impossible; cases impossible
  | some helper => exact Helper.registered_of_ofName? found

end

variable {conduct : Conduct} {setting : Setting} (legal : conduct.Legal setting.host)

namespace Follows
include legal

theorem resolve (blocks : List Block) (path : Path) : Follows conduct (resolve setting blocks path) := by
  intro progress state
  rw [resolve_apply]
  cases looked : Template.lookup (progress.renewed.getD setting.context) blocks path with
  | ok found => exact legal.stay progress state
  | error error =>
    obtain ⟨key, rfl⟩ := eq_invalidIndex_of_lookup looked
    exact legal.fail progress state _ rfl

mutual

theorem evaluateArgument (blocks : List Block) (argument : Argument) :
    Follows conduct (Template.evaluate setting blocks argument) :=
  match argument with
  | .name _ => pure legal _
  | .path path => resolve legal blocks path
  | .literal _ => pure legal _
  | .call name params hash =>
    bind legal (evaluateAll blocks params) fun _ => bind legal (evaluateHash blocks hash) fun _ =>
      bind legal (evaluate legal (Helper.registered_getD setting.host name) (.of_no_parts rfl rfl)) fun _ =>
        pure legal _

theorem evaluateAll (blocks : List Block) (arguments : List Argument) :
    Follows conduct (Template.evaluateAll setting blocks arguments) :=
  match arguments with
  | [] => pure legal _
  | argument :: arguments =>
    bind legal (evaluateArgument blocks argument) fun _ =>
      bind legal (evaluateAll blocks arguments) fun _ => pure legal _

theorem evaluateHash (blocks : List Block) (hash : List (String × Argument)) :
    Follows conduct (Template.evaluateHash setting blocks hash) :=
  match hash with
  | [] => pure legal _
  | (_, argument) :: hash =>
    bind legal (evaluateArgument blocks argument) fun _ =>
      bind legal (evaluateHash blocks hash) fun _ => pure legal _

end

theorem nameOf (blocks : List Block) (argument : Argument) : Follows conduct (nameOf setting blocks argument) := by
  unfold Template.nameOf
  split
  · exact pure legal _
  · exact pure legal _
  · exact bind legal (evaluateArgument legal blocks _) fun _ => pure legal _

theorem call (blocks : List Block) (e : Expression) : Follows conduct (call setting blocks e) :=
  bind legal (nameOf legal blocks e.head) fun _ => bind legal (evaluateAll legal blocks e.params) fun _ =>
    bind legal (evaluateHash legal blocks e.hash) fun _ => pure legal _

theorem writeCall (blocks : List Block) (e : Expression) :
    Follows conduct (Template.writeCall setting blocks e) := by
  simp only [Template.writeCall, Template.call, bind_assoc, pure_bind]
  refine bind legal (nameOf legal blocks e.head) fun name => bind legal (evaluateAll legal blocks e.params)
    fun _ => bind legal (evaluateHash legal blocks e.hash) fun _ => part legal ?_
  exact write legal (Helper.registered_getD setting.host name) (.of_no_parts rfl rfl)

theorem writeOutput (blocks : List Block) (e : Expression) :
    Follows conduct (Template.writeOutput setting blocks e) := by
  unfold Template.writeOutput
  split
  · exact writeCall legal blocks e
  · refine bind legal (nameOf legal blocks e.head) fun name => ?_
    split
    · exact writeCall legal blocks e
    · refine bind legal (evaluateArgument legal blocks e.head) fun found => ?_
      split
      · exact bind legal (call legal blocks e) fun call => writeMissing legal setting.host call
      · exact emit legal _

theorem inclusionBlock (call : Call) : Follows conduct (Template.inclusionBlock setting call) := by
  unfold Template.inclusionBlock
  split
  · exact bind legal (pure legal _) fun _ => pure legal _
  · exact bind legal (resolve legal _ _) fun _ => pure legal _

theorem findPartial (name : String) : Follows conduct (Template.findPartial name) := by
  refine bind legal (get legal) fun progress => ?_
  dsimp only
  split <;> exact pure legal _

omit legal in
mutual

theorem renderElement {included : Renderer} (legal : conduct.Legal setting.host)
    (within : ∀ elements blocks, Follows conduct (included elements blocks))
    (element : Element) (blocks : List Block) :
    Follows conduct (Template.renderElement setting included element blocks) :=
  match element with
  | .text s => emit legal s
  | .output e => writeOutput legal blocks e
  | .block e names ownLine body inverse => by
    rw [Template.renderElement]
    refine bind legal (call legal blocks e) fun call => ?_
    dsimp only
    split
    next helper found =>
      refine part legal (write legal (Helper.registered_of_ofName? found) ⟨?_, ?_⟩)
      · rintro _ ⟨⟩ blocks
        exact renderElements legal within body blocks
      · exact renderInverse legal within inverse
    next => exact fail legal rfl
  | .decorator e body => by
    rw [Template.renderElement]
    refine bind legal (call legal blocks e) fun call => ?_
    split
    · split
      · exact bind legal (modify legal fun _ => rfl) fun _ => pure legal _
      · exact fail legal rfl
      · exact fail legal rfl
    · exact fail legal rfl
  | .inclusion e indent ownLine body => by
    rw [Template.renderElement]
    refine bind legal (call legal blocks e) fun call => bind legal (findPartial legal call.name) fun found =>
      bind legal (inclusionBlock legal call) fun block => part legal (locally legal ?_)
    refine bind legal (renderBody legal within body (block :: blocks)) fun body => ?_
    split
    · exact within _ _
    · exact pure legal _
    · exact pure legal _
    · exact fail legal rfl
termination_by structural element

theorem renderElements {included : Renderer} (legal : conduct.Legal setting.host)
    (within : ∀ elements blocks, Follows conduct (included elements blocks))
    (elements : List Element) (blocks : List Block) :
    Follows conduct (Template.renderElements setting included elements blocks) :=
  match elements with
  | [] => pure legal _
  | element :: elements =>
    bind legal (renderElement legal within element blocks) fun _ =>
      bind legal (renderElements legal within elements blocks) fun _ => pure legal _
termination_by structural elements

theorem renderInverse {included : Renderer} (legal : conduct.Legal setting.host)
    (within : ∀ elements blocks, Follows conduct (included elements blocks))
    (inverse : Option (List Element)) :
    ∀ part ∈ Template.renderInverse setting included inverse, ∀ blocks, Follows conduct (part blocks) :=
  match inverse with
  | none => fun _ impossible => nomatch impossible
  | some body => by
    rintro _ ⟨⟩ blocks
    exact renderElements legal within body blocks
termination_by structural inverse

theorem renderBody {included : Renderer} (legal : conduct.Legal setting.host)
    (within : ∀ elements blocks, Follows conduct (included elements blocks))
    (body : Option (List Element)) (blocks : List Block) :
    Follows conduct (Template.renderBody setting included body blocks) :=
  match body with
  | none => pure legal _
  | some body =>
    bind legal (renderElements legal within body blocks) fun _ =>
      bind legal (modify legal fun _ => rfl) fun _ => pure legal _
termination_by structural body

end

theorem renderWithin (depth : Nat) (elements : List Element) (blocks : List Block) :
    Follows conduct (Template.renderWithin setting depth elements blocks) := by
  induction depth generalizing elements blocks with
  | zero => exact fail legal rfl
  | succ depth ih => exact renderElements legal ih elements blocks

end Follows

theorem renderTree_apply (host : Host) (elements : List Element) (state : State) :
    renderTree host elements state =
      ((renderWithin ⟨host, .object state.bindings⟩ depthLimit elements [{}] {} state).1.map Prod.fst,
        (renderWithin ⟨host, .object state.bindings⟩ depthLimit elements [{}] {} state).2) := by
  unfold renderTree
  rw [Run.bind_apply, Run.bindings_apply]
  dsimp only
  generalize renderWithin ⟨host, .object state.bindings⟩ depthLimit elements [{}] {} = run
  rw [Run.bind_apply]
  rcases run state with ⟨error | result, after⟩ <;> rfl

/-- A rendering starts with the variables of the run and hands back only its text. -/
theorem render_follows {host : Host} (legal : conduct.Legal host) (source : String) (state : State) :
    ∃ outcome, conduct {} state outcome (render host source state).2 ∧
      outcome.map (fun _ => ()) = (render host source state).1.map (fun _ => ()) := by
  cases read : read? source with
  | none =>
    rw [render_of_unreadable read]
    exact ⟨_, legal.fail {} state _ rfl, rfl⟩
  | some elements =>
    have followed : Follows conduct (renderWithin ⟨host, .object state.bindings⟩ depthLimit elements [{}]) :=
      Follows.renderWithin legal depthLimit elements [{}]
    rw [render_of_read? read, renderTree_apply]
    refine ⟨_, followed {} state, ?_⟩
    generalize (renderWithin ⟨host, .object state.bindings⟩ depthLimit elements [{}] {} state).1 = outcome
    cases outcome <;> rfl

end Template

end PromptKernel
