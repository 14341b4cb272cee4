import PromptKernel.Proofs.RenderLogic

/-! Records of renderings. A record lists what happens in a rendering, in order, by the rendering's own
recursion and on the states that it comes to. Every part of a template has its record, which is that of the
helpers that it comes to call; helpers with blocks add those of the parts that they render. What is written
down of a single step is up to a recorder. It is told what goes wrong by a list of its own of all that the
engine and the helpers may object to, and not by the errors that the rendering comes up with. -/

namespace PromptKernel

def failure? : Except Error α → Option Error
  | .ok _ => none
  | .error error => some error

@[simp] theorem failure?_map (outcome : Except Error α) (f : α → β) :
    failure? (outcome.map f) = failure? outcome := by
  cases outcome <;> rfl

@[simp] theorem failure?_mapError (outcome : Except Error α) (f : Error → Error) :
    failure? (outcome.mapError f) = (failure? outcome).map f := by
  cases outcome <;> rfl

/-- What the engine reports by itself, while it reads a template or renders it. -/
inductive EngineFault
  /-- There is no helper of that name for a block. -/
  | noHelper (name : String)
  | other (fault : TemplateFault)

/-- All errors of the engine are those of templates, apart from helpers that are not there. -/
def EngineFault.error : EngineFault → Error
  | noHelper name => .unknownHelper name
  | other fault => .template fault

/-- What a helper that does not belong to the engine has against a call. -/
inductive Complaint
  | missingRole
  /-- The name stands for nothing. -/
  | unknown
  | invalid (reason : String)

def Complaint.error (helper : String) : Complaint → Error
  | missingRole => .missingRole
  | unknown => .unknownHelper helper
  | invalid reason => .invalidHelperArguments helper reason

namespace Template

/-- What is written down about single steps. -/
structure Recorder (β : Type) where
  /-- The engine gives up. -/
  fault : EngineFault → List β
  /-- The helper that is called by the name refuses the call. -/
  complaint : (helper : String) → Complaint → List β
  assign : (name : String) → (value : Json) → List β
  /-- A function is called with arguments, unless it does not accept them or the run is cancelled. -/
  dispatch : Function → (arguments : Fields Json) → State → List β

/-- What is written down from some moment of a rendering on. -/
abbrev Record (β : Type) := Progress → State → List β

namespace Record

def of (entries : List β) : Record β := fun _ _ => entries

def none : Record β := of []

/-- The record of a step, and that of what follows once the step has returned. -/
def andThen (own : Record β) (step : Render α) (rest : α → Record β) : Record β := fun progress state =>
  own progress state ++
    match step progress state with
    | (.ok (value, later), after) => rest value later after
    | (.error _, _) => []

/-- The record of a part on a margin of its own. -/
def onMargin (enter : Margin → Margin) (inside : Record β) : Record β := fun progress =>
  inside { progress with margin := enter progress.margin }

end Record

section
variable (recorder : Recorder β)

/-! Records of helpers. -/

namespace Helper

def paramRecord (call : Call) (position : Nat) : Record β :=
  if call.params[position]?.isSome then .none else .of (recorder.fault (.other (.missingArgument call.name)))

def twoParamsRecord (call : Call) : Record β :=
  (paramRecord recorder call 0).andThen (call.param 0) fun _ => paramRecord recorder call 1

def variableRecord (call : Call) : Record β :=
  match call.argument? 0 "name" with
  | some (.string name) =>
    if name.isEmpty then .of (recorder.complaint call.name (.invalid "a variable name is required")) else .none
  | _ => .of (recorder.complaint call.name (.invalid "a variable name is required"))

def equalRecord (call : Call) : Record β :=
  if 2 ≤ call.params.length then .none
  else .of (recorder.complaint call.name (.invalid "two operands are required"))

def missingRecord (functions : List Function) (call : Call) : Record β :=
  if call.params.isEmpty && call.hash.isEmpty && !isInGroup functions call.name then .none
  else .of (recorder.complaint call.name .unknown)

def logRecord (call : Call) : Record β :=
  let level := ((call.hash.get? "level").bind fun found => found.json.string?).getD "info"
  if levels.contains (TemplateFormat.asciiLower level) then .none
  else .of (recorder.fault (.other (.invalidArgument call.name)))

/-- Arguments by position are at most one, which has to be a map. -/
def functionRecord (function : Function) (call : Call) : Record β := fun _ state =>
  match functionArguments call with
  | .ok arguments => recorder.dispatch function arguments state
  | .error _ => recorder.complaint call.name (.invalid <|
      if call.params.length = 1 then "the positional argument must be a map"
      else "at most one positional argument is allowed")

def truthRecord (helper : Helper) (call : Call) : Record β :=
  match helper with
  | relation _ => twoParamsRecord recorder call
  | negation => paramRecord recorder call 0
  | _ => .none

def itemsRecord (call : Call) (collection : Found) (part : List Block → Render String)
    (body : List Block → Record β) (position : Nat) : List Item → Record β
  | [] => .none
  | item :: items =>
    let blocks := itemBlock collection call.names item position items.isEmpty :: call.blocks
    (body blocks).andThen (part blocks) fun _ => itemsRecord call collection part body (position + 1) items

/-- The record of a call, with those of the body and the inverse of its block. -/
def record (functions : List Function) (helper : Helper) (call : Call) (body inverse : List Block → Record β) :
    Record β :=
  match helper with
  | message =>
    if !call.isBlock && call.params.isEmpty && call.hash.isEmpty then .none
    else
      match call.argument? 0 "role" with
      | some (.string role) =>
        if Text.isBlankText role then .of (recorder.complaint call.name .missingRole) else body call.blocks
      | _ => .of (recorder.complaint call.name .missingRole)
  | set =>
    (variableRecord recorder call).andThen (variableName call) fun name =>
      .of (recorder.assign name ((call.argument? 1 "value").getD .null))
  | get => variableRecord recorder call
  | json => .none
  | equal => equalRecord recorder call
  | raw => body call.blocks
  | missing => missingRecord recorder functions call
  | condition positive =>
    (paramRecord recorder call 0).andThen (call.param 0) fun value =>
      let includeZero := ((call.hash.get? "includeZero").bind fun found => found.json.bool?).getD false
      if isTrue includeZero value.json == positive then body call.blocks else inverse call.blocks
  | each =>
    (paramRecord recorder call 0).andThen (call.param 0) fun collection =>
      match call.body, items? collection.json with
      | none, _ => .none
      | some part, some (item :: items) => itemsRecord call collection part body 0 (item :: items)
      | some _, _ => inverse call.blocks
  | within =>
    (paramRecord recorder call 0).andThen (call.param 0) fun value =>
      if isTrue false value.json then body (valueBlock value call.names :: call.blocks) else inverse call.blocks
  | lookup => twoParamsRecord recorder call
  | length => paramRecord recorder call 0
  | log => logRecord recorder call
  | function f => functionRecord recorder f call
  | helper =>
    match helper.truth? call with
    | some truth =>
      (helper.truthRecord recorder call).andThen truth fun holds =>
        if !call.isBlock then .none else if holds then body call.blocks else inverse call.blocks
    | none => .none

/-- The record of a call without a block. -/
def ownRecord (functions : List Function) (helper : Helper) (call : Call) : Record β :=
  helper.record recorder functions call (fun _ => .none) (fun _ => .none)

section
variable {recorder : Recorder β} {helper : Helper} {call : Call} {truth : Render Bool}
  (found : helper.truth? call = some truth)
include found

theorem write_of_truth? (host : Host) : helper.write host call = truth >>= writeTruth call := by
  cases helper <;> simp only [truth?, Option.some.injEq, reduceCtorEq] at found <;> subst found <;> rfl

theorem value?_of_truth? (host : Host) : helper.value? host call = some do return .bool (← truth) := by
  cases helper <;> simp only [truth?, Option.some.injEq, reduceCtorEq] at found <;> subst found <;> rfl

theorem record_of_truth? (functions : List Function) (body inverse : List Block → Record β) :
    helper.record recorder functions call body inverse =
      (helper.truthRecord recorder call).andThen truth fun holds =>
        if !call.isBlock then .none else if holds then body call.blocks else inverse call.blocks := by
  cases helper <;> simp only [truth?, Option.some.injEq, reduceCtorEq] at found <;> subst found <;> rfl

end

end Helper

/-! Records of templates. -/

variable (setting : Setting) (blocks : List Block)

/-- Looking a path up changes nothing, and may fail. -/
def resolveRecord (path : Path) : Record β := fun progress state =>
  match (resolve setting blocks path progress state).1 with
  | .error (.template fault) => recorder.fault (.other fault)
  | _ => []

mutual

def argumentRecord : Argument → Record β
  | .name _ | .literal _ => .none
  | .path path => resolveRecord recorder setting blocks path
  | .call name params hash =>
    (argumentsRecord params).andThen (evaluateAll setting blocks params) fun params =>
      (hashRecord hash).andThen (evaluateHash setting blocks hash) fun hash =>
        ((Helper.ofName? setting.host.functions name).getD .missing).ownRecord recorder setting.host.functions
          { name, params, hash, blocks }

def argumentsRecord : List Argument → Record β
  | [] => .none
  | argument :: arguments =>
    (argumentRecord argument).andThen (evaluate setting blocks argument) fun _ => argumentsRecord arguments

def hashRecord : List (String × Argument) → Record β
  | [] => .none
  | (_, argument) :: hash =>
    (argumentRecord argument).andThen (evaluate setting blocks argument) fun _ => hashRecord hash

end

/-- Names and paths are names as they stand. -/
def nameRecord : Argument → Record β
  | .name _ | .path _ => .none
  | argument => argumentRecord recorder setting blocks argument

/-- The record of the name and the arguments of a call. -/
def expressionRecord (e : Expression) : Record β :=
  (nameRecord recorder setting blocks e.head).andThen (nameOf setting blocks e.head) fun _ =>
    (argumentsRecord recorder setting blocks e.params).andThen (evaluateAll setting blocks e.params) fun _ =>
      hashRecord recorder setting blocks e.hash

def calledRecord (e : Expression) : Record β :=
  (expressionRecord recorder setting blocks e).andThen (call setting blocks e) fun call =>
    (((Helper.ofName? setting.host.functions call.name).getD .missing).ownRecord recorder setting.host.functions
      call).onMargin (·.enter false)

def outputRecord (e : Expression) : Record β :=
  if !e.isBare then calledRecord recorder setting blocks e
  else
    (nameRecord recorder setting blocks e.head).andThen (nameOf setting blocks e.head) fun name =>
      match Helper.ofName? setting.host.functions name with
      | some _ => calledRecord recorder setting blocks e
      | none =>
        (argumentRecord recorder setting blocks e.head).andThen (evaluate setting blocks e.head) fun found =>
          match found with
          | .missing =>
            (expressionRecord recorder setting blocks e).andThen (call setting blocks e) fun call =>
              Helper.missingRecord recorder setting.host.functions call
          | _ => .none

/-- Of decorators the engine knows only the one that names a partial template. -/
def decoratorRecord (call : Call) (body : Option (List Element)) : Record β :=
  if call.name = "inline" then
    match call.params.map Found.json, body with
    | .string _ :: _, some _ => .none
    | [], _ => .of (recorder.fault (.other (.missingArgument call.name)))
    | _, _ => .of (recorder.fault (.other (.invalidArgument call.name)))
  else .of (recorder.fault (.other (.unknownDecorator call.name)))

/-- Without a parameter an inclusion looks up what is around it. -/
def inclusionRecord (call : Call) : Record β :=
  match call.params with
  | _ :: _ => .none
  | [] => resolveRecord recorder setting call.blocks (.steps "" [])

variable (included : Renderer) (includedRecord : List Element → List Block → Record β)

mutual

/-- The record of one element. That of templates that it includes is left to `includedRecord`. -/
def elementRecord : Element → List Block → Record β
  | .text _, _ => .none
  | .output e, blocks => outputRecord recorder setting blocks e
  | .block e names ownLine body inverse, blocks =>
    (expressionRecord recorder setting blocks e).andThen (call setting blocks e) fun call =>
      let call := { call with
        names
        body := some (renderElements setting included body)
        inverse := renderInverse setting included inverse }
      match Helper.ofName? setting.host.functions call.name with
      | some helper =>
        (helper.record recorder setting.host.functions call (elementsRecord body) (partRecord inverse)).onMargin
          (·.enter ownLine)
      | none => .of (recorder.fault (.noHelper call.name))
  | .decorator e body, blocks =>
    (expressionRecord recorder setting blocks e).andThen (call setting blocks e) fun call =>
      decoratorRecord recorder call body
  | .inclusion e indent ownLine body, blocks =>
    (expressionRecord recorder setting blocks e).andThen (call setting blocks e) fun call =>
      Record.none.andThen (findPartial call.name) fun found =>
        (inclusionRecord recorder setting call).andThen (inclusionBlock setting call) fun block =>
          .onMargin (·.enterIndented indent ownLine) <|
            (partRecord body (block :: blocks)).andThen (renderBody setting included body (block :: blocks)) fun text =>
              match found, text with
              | some (.template elements), _ => includedRecord elements (block :: blocks)
              | some (.body _), _ | none, some _ => .none
              | none, none => .of (recorder.fault (.other (.unknownPartial call.name)))
termination_by structural element => element

def elementsRecord : List Element → List Block → Record β
  | [], _ => .none
  | element :: elements, blocks =>
    (elementRecord element blocks).andThen (renderElement setting included element blocks) fun _ =>
      elementsRecord elements blocks
termination_by structural elements => elements

def partRecord : Option (List Element) → List Block → Record β
  | none, _ => .none
  | some part, blocks => elementsRecord part blocks
termination_by structural part => part

end

def withinRecord : Nat → List Element → List Block → Record β
  | 0 => fun _ _ => .of (recorder.fault (.other .endlessInclusion))
  | depth + 1 => elementsRecord recorder setting (renderWithin setting depth) (withinRecord depth)

def renderRecord (host : Host) (source : String) (state : State) : List β :=
  match read? source with
  | some elements => withinRecord recorder ⟨host, .object state.bindings⟩ depthLimit elements [{}] {} state
  | none => recorder.fault (.other .malformed)

end

/-- A call has no block until it is given one. -/
theorem parts_of_call {setting : Setting} {blocks : List Block} {e : Expression} {progress later : Progress}
    {state after : State} {used : Call} (called : call setting blocks e progress state = (.ok (used, later), after)) :
    used.body = none ∧ used.inverse = none := by
  revert called
  unfold call
  rw [Render.bind_apply]
  rcases nameOf setting blocks e.head progress state with ⟨error | ⟨name, named⟩, middle⟩
  · exact nofun
  · dsimp only
    rw [Render.bind_apply]
    rcases evaluateAll setting blocks e.params named middle with ⟨error | ⟨params, evaluated⟩, further⟩
    · exact nofun
    · dsimp only
      rw [Render.bind_apply]
      rcases evaluateHash setting blocks e.hash evaluated further with ⟨error | ⟨hash, last⟩, ends⟩
      · exact nofun
      · rintro ⟨⟩
        exact ⟨rfl, rfl⟩

/-! What records say about renderings. -/

end Template

/-- What a record of a stretch of a run has to do with the states before and after, and with the error at the
end if there is one. -/
abbrev Course (β : Type) := State → List β → Option Error → State → Prop

namespace Template

/-- The course is right about each step, and about sequences of steps. -/
structure Legal (course : Course β) (recorder : Recorder β) (host : Host) : Prop where
  stay : ∀ state, course state [] none state
  trans : ∀ {state middle after record later outcome}, course state record none middle →
    course middle later outcome after → course state (record ++ later) outcome after
  fault : ∀ state fault, course state (recorder.fault fault) (some fault.error) state
  complaint : ∀ state name complaint,
    course state (recorder.complaint name complaint) (some (complaint.error name)) state
  assign : ∀ (state : State) name value,
    course state (recorder.assign name value) none { state with bindings := state.bindings.insert name value }
  dispatch : ∀ state function arguments, function ∈ host.functions →
    let ended := Helper.dispatch host function arguments state
    course state (recorder.dispatch function arguments state) (failure? ended.1) ended.2

/-- The rendering takes the course that is on record. -/
def Render.Takes (course : Course β) (render : Render α) (record : Record β) : Prop :=
  ∀ progress state, course state (record progress state) (failure? (render progress state).1)
    (render progress state).2

namespace Render.Takes

section
variable {course : Course β} {recorder : Recorder β} {host : Host} (legal : Legal course recorder host)
include legal

theorem pure (value : α) : (pure value : Render α).Takes course .none := fun _ state => legal.stay state

theorem get : (get : Render Progress).Takes course .none := fun _ state => legal.stay state

theorem modify (change : Progress → Progress) : (modify change : Render Unit).Takes course .none :=
  fun _ state => legal.stay state

theorem lookup (name : String) : (Render.ofRun (Run.lookup name)).Takes course .none :=
  fun _ state => legal.stay state

theorem emit (text : String) : (Render.emit text).Takes course .none := fun _ state => legal.stay state

theorem fault (fault : EngineFault) : (Render.fail fault.error : Render α).Takes course (.of (recorder.fault fault)) :=
  fun _ state => legal.fault state fault

theorem complaint (name : String) (complaint : Complaint) :
    (Render.fail (complaint.error name) : Render α).Takes course (.of (recorder.complaint name complaint)) :=
  fun _ state => legal.complaint state name complaint

variable {render : Render α} {next : α → Render γ} {own : Record β} {rest : α → Record β}

/-- What follows is known for the values that the step gives. -/
theorem bind_of_given {given : α → Prop} (first : render.Takes course own)
    (gives : ∀ {progress state value passed after}, render progress state = (.ok (value, passed), after) → given value)
    (later : ∀ value, given value → (next value).Takes course (rest value)) :
    (render >>= next).Takes course (own.andThen render rest) := by
  intro progress state
  have begun := first progress state
  rw [bind_apply, Record.andThen]
  rcases done : render progress state with ⟨error | ⟨value, passed⟩, after⟩ <;> rw [done] at begun
  · rwa [List.append_nil]
  · exact legal.trans begun (later value (gives done) passed after)

theorem bind (first : render.Takes course own) (later : ∀ value, (next value).Takes course (rest value)) :
    (render >>= next).Takes course (own.andThen render rest) :=
  bind_of_given legal first (fun _ => trivial) fun value _ => later value

/-- Nothing is put on record of what follows. -/
theorem bind_none (first : render.Takes course own) (later : ∀ value, (next value).Takes course .none) :
    (render >>= next).Takes course own := by
  intro progress state
  have whole := bind legal first later progress state
  have same : own.andThen render (fun _ => Record.none) progress state = own progress state := by
    rw [Record.andThen]
    split <;> exact List.append_nil _
  rwa [same] at whole

end

section
variable {course : Course β} {render : Render α} {own : Record β} (inside : render.Takes course own)
include inside

theorem part (enter : Margin → Margin) : (Render.part enter render).Takes course (own.onMargin enter) := by
  intro progress state
  have begun := inside { progress with margin := enter progress.margin } state
  rw [part_apply, Record.onMargin]
  rcases done : render { progress with margin := enter progress.margin } state with
    ⟨error | ⟨value, later⟩, after⟩ <;> rwa [done] at begun

theorem locally : (Render.locally render).Takes course own := by
  intro progress state
  have begun := inside progress state
  rw [locally_apply]
  rcases done : render progress state with ⟨error | ⟨value, later⟩, after⟩ <;> rwa [done] at begun

end

/-! Helpers. -/

section
variable {course : Course β} {recorder : Recorder β} {host : Host} (legal : Legal course recorder host)
include legal

theorem param (call : Call) (position : Nat) :
    (call.param position).Takes course (Helper.paramRecord recorder call position) := by
  unfold Call.param Helper.paramRecord
  cases call.params[position]? with
  | none => exact fault legal (.other (.missingArgument call.name))
  | some _ => exact pure legal _

theorem twoParams (call : Call) (next : Found → Found → Render α)
    (later : ∀ a b, (next a b).Takes course .none) :
    (do let a ← call.param 0; let b ← call.param 1; next a b : Render α).Takes course
      (Helper.twoParamsRecord recorder call) :=
  bind legal (param legal call 0) fun a => bind_none legal (param legal call 1) fun b => later a b

theorem variableName (call : Call) :
    (Helper.variableName call).Takes course (Helper.variableRecord recorder call) := by
  have refused : (Render.fail (call.invalid "a variable name is required") : Render String).Takes course
      (.of (recorder.complaint call.name (.invalid "a variable name is required"))) := complaint legal call.name (.invalid _)
  unfold Helper.variableName Helper.variableRecord
  generalize call.argument? 0 "name" = given
  rcases given with _ | value
  · exact refused
  · cases value with
    | string name =>
      dsimp only
      split
      · exact refused
      · exact pure legal _
    | _ => exact refused

theorem variableValue (call : Call) :
    (Helper.variableValue call).Takes course (Helper.variableRecord recorder call) :=
  bind_none legal (variableName legal call) fun name => bind_none legal (lookup legal name) fun _ => pure legal _

theorem areEqual (call : Call) : (Helper.areEqual call).Takes course (Helper.equalRecord recorder call) := by
  have refused : (Render.fail (call.invalid "two operands are required") : Render Bool).Takes course
      (.of (recorder.complaint call.name (.invalid "two operands are required"))) := complaint legal call.name (.invalid _)
  unfold Helper.areEqual Helper.equalRecord
  rcases call.params with _ | ⟨a, _ | ⟨b, params⟩⟩
  · exact refused
  · exact refused
  · rw [if_pos (by simp)]
    exact pure legal _

theorem member (call : Call) : (Helper.member call).Takes course (Helper.twoParamsRecord recorder call) :=
  twoParams legal call _ fun _ _ => pure legal _

theorem writeLog (call : Call) : (Helper.writeLog call).Takes course (Helper.logRecord recorder call) := by
  unfold Helper.writeLog Helper.logRecord
  dsimp only
  split
  · exact pure legal _
  · exact fault legal (.other (.invalidArgument call.name))

theorem writeMissing (call : Call) : (Helper.writeMissing host call).Takes course
    (Helper.missingRecord recorder host.functions call) := by
  unfold Helper.writeMissing Helper.missingRecord
  split
  · exact pure legal _
  · exact complaint legal call.name .unknown

theorem truth {helper : Helper} {call : Call} {truth : Render Bool} (found : helper.truth? call = some truth) :
    truth.Takes course (helper.truthRecord recorder call) := by
  cases helper <;> simp only [Helper.truth?, Option.some.injEq, reduceCtorEq] at found <;> subst found
  case relation r => exact twoParams legal call _ fun _ _ => pure legal _
  case conjunction | disjunction => exact pure legal _
  case negation => exact bind_none legal (param legal call 0) fun _ => pure legal _

omit legal in
theorem invalid_of_functionArguments {call : Call} {error : Error}
    (refused : Helper.functionArguments call = .error error) : error = call.invalid
      (if call.params.length = 1 then "the positional argument must be a map"
      else "at most one positional argument is allowed") := by
  unfold Helper.functionArguments at refused
  dsimp only at refused
  rw [show call.params.length = (call.params.map Found.json).length from (List.length_map Found.json).symm]
  split at refused
  · cases refused
  · cases refused
  · cases refused
  next same =>
    cases refused
    rw [same]
    rfl
  next several =>
    cases refused
    rw [if_neg]
    intro single
    obtain ⟨value, same⟩ := List.length_eq_one_iff.mp single
    exact several value same

theorem callFunction {function : Function} (member : function ∈ host.functions) (call : Call) :
    (Helper.callFunction host function call).Takes course (Helper.functionRecord recorder function call) := by
  intro progress state
  rw [Helper.callFunction_apply]
  unfold Helper.functionRecord
  cases read : Helper.functionArguments call with
  | ok arguments =>
    have dispatched := legal.dispatch state function arguments member
    dsimp only at dispatched ⊢
    rcases done : Helper.dispatch host function arguments state with ⟨error | result, after⟩ <;>
      rwa [done] at dispatched
  | error error =>
    rw [invalid_of_functionArguments read]
    exact legal.complaint state call.name (.invalid _)

variable {call : Call} {body inverse : List Block → Record β}
  (main : ∀ blocks, (Call.part call.body blocks).Takes course (body blocks))
  (otherwise : ∀ blocks, (Call.part call.inverse blocks).Takes course (inverse blocks))

include main in
theorem writeMessage (functions : List Function) :
    (Helper.writeMessage call).Takes course (Helper.record recorder functions .message call body inverse) := by
  have refused : (Render.fail .missingRole : Render String).Takes course
      (.of (recorder.complaint call.name .missingRole)) := complaint legal call.name .missingRole
  unfold Helper.writeMessage Helper.record
  dsimp only
  split
  · exact bind_none legal (lookup legal "message") fun _ => pure legal _
  · generalize call.argument? 0 "role" = given
    rcases given with _ | value
    · exact refused
    · cases value with
      | string role =>
        dsimp only
        split
        · exact refused
        · exact bind_none legal (main call.blocks) fun _ => pure legal _
      | _ => exact refused

theorem writeItems {part : List Block → Render String} (inside : ∀ blocks, (part blocks).Takes course (body blocks))
    (collection : Found) (position : Nat) (items : List Helper.Item) :
    (Helper.writeItems call collection part position items).Takes course
      (Helper.itemsRecord call collection part body position items) := by
  induction items generalizing position with
  | nil => exact pure legal _
  | cons item items ih =>
    exact bind legal (inside _) fun _ => bind_none legal (ih (position + 1)) fun _ => pure legal _

include main otherwise in
theorem writeEach (functions : List Function) :
    (Helper.writeEach call).Takes course (Helper.record recorder functions .each call body inverse) := by
  refine bind legal (param legal call 0) fun collection => ?_
  cases given : call.body with
  | none => exact pure legal _
  | some part =>
    rw [given] at main
    rcases Helper.items? collection.json with _ | _ | ⟨item, items⟩
    · exact otherwise call.blocks
    · exact otherwise call.blocks
    · exact locally (writeItems legal main collection 0 (item :: items))

include main otherwise in
theorem writeTruth {truth : Render Bool} {own : Record β} (first : truth.Takes course own) :
    (truth >>= Helper.writeTruth call).Takes course (own.andThen truth fun holds =>
      if !call.isBlock then .none else if holds then body call.blocks else inverse call.blocks) := by
  refine bind legal first fun holds => ?_
  unfold Helper.writeTruth
  split
  · exact pure legal _
  · split
    · exact main call.blocks
    · exact otherwise call.blocks

include main otherwise

theorem write {helper : Helper} (registered : helper.Registered host) :
    (helper.write host call).Takes course (helper.record recorder host.functions call body inverse) := by
  rcases found : helper.truth? call with _ | truth
  case some =>
    rw [Helper.write_of_truth? found, Helper.record_of_truth? found]
    exact writeTruth legal main otherwise (Takes.truth legal found)
  cases helper with
  | message => exact writeMessage legal main host.functions
  | set => exact bind legal (variableName legal call) fun name progress state => legal.assign state name _
  | get => exact bind_none legal (variableValue legal call) fun _ => pure legal _
  | json => exact pure legal _
  | equal => exact bind_none legal (areEqual legal call) fun _ => pure legal _
  | raw => exact main call.blocks
  | missing => exact writeMissing legal call
  | condition positive =>
    refine bind legal (param legal call 0) fun value => ?_
    dsimp only
    split
    · exact main call.blocks
    · exact otherwise call.blocks
  | each => exact writeEach legal main otherwise host.functions
  | within =>
    unfold Helper.write
    rw [writeWithin_eq]
    refine bind legal (param legal call 0) fun value => ?_
    split
    · exact locally (main _)
    · exact otherwise call.blocks
  | lookup => exact bind_none legal (member legal call) fun _ => emit legal _
  | length => exact bind_none legal (param legal call 0) fun _ => emit legal _
  | log => exact writeLog legal call
  | function f => exact bind_none legal (callFunction legal (registered f rfl) call) fun _ => pure legal _
  | relation _ | conjunction | disjunction | negation => cases found

omit main otherwise in
theorem own {helper : Helper} (registered : helper.Registered host) {call : Call} (body : call.body = none)
    (inverse : call.inverse = none) :
    (helper.write host call).Takes course (helper.ownRecord recorder host.functions call) := by
  refine write legal ?_ ?_ registered
  · intro blocks
    rw [body]
    exact pure legal _
  · intro blocks
    rw [inverse]
    exact pure legal _

omit main otherwise in
theorem evaluate {helper : Helper} (registered : helper.Registered host) {call : Call} (body : call.body = none)
    (inverse : call.inverse = none) :
    (helper.evaluate host call).Takes course (helper.ownRecord recorder host.functions call) := by
  rcases found : helper.truth? call with _ | truth
  case some =>
    unfold Helper.evaluate Helper.ownRecord
    rw [Helper.value?_of_truth? found, Helper.record_of_truth? found]
    refine bind legal (Takes.truth legal found) fun holds => ?_
    simp only [ite_self]
    exact pure legal _
  have written := own legal registered body inverse
  cases helper with
  | get => exact variableValue legal call
  | equal => exact bind_none legal (areEqual legal call) fun _ => pure legal _
  | lookup => exact member legal call
  | length => exact bind_none legal (param legal call 0) fun _ => pure legal _
  | function f => exact bind_none legal (callFunction legal (registered f rfl) call) fun _ => pure legal _
  | relation _ | conjunction | disjunction | negation => cases found
  | _ => exact bind_none legal written fun _ => pure legal _

end

/-! Templates. -/

section
variable {course : Course β} {recorder : Recorder β} {setting : Setting} (legal : Legal course recorder setting.host)
include legal

theorem resolve (blocks : List Block) (path : Path) :
    (resolve setting blocks path).Takes course (resolveRecord recorder setting blocks path) := by
  intro progress state
  unfold resolveRecord
  rw [resolve_apply]
  cases looked : Template.lookup (progress.renewed.getD setting.context) blocks path with
  | ok found => exact legal.stay state
  | error error =>
    obtain ⟨key, rfl⟩ := eq_invalidIndex_of_lookup looked
    exact legal.fault state (.other (.invalidIndex key))

theorem inclusionBlock (call : Call) :
    (inclusionBlock setting call).Takes course (inclusionRecord recorder setting call) := by
  unfold Template.inclusionBlock inclusionRecord
  cases call.params with
  | nil => exact bind_none legal (resolve legal _ _) fun _ => pure legal _
  | cons found params => exact bind_none legal (pure legal _) fun _ => pure legal _

theorem findPartial (name : String) : (findPartial name).Takes course .none := by
  refine bind_none legal (get legal) fun progress => ?_
  dsimp only
  split <;> exact pure legal _

omit legal in
mutual

theorem argument (legal : Legal course recorder setting.host) (blocks : List Block) (argument : Argument) :
    (Template.evaluate setting blocks argument).Takes course (argumentRecord recorder setting blocks argument) :=
  match argument with
  | .name _ => pure legal _
  | .path path => resolve legal blocks path
  | .literal _ => pure legal _
  | .call name params hash =>
    bind legal (arguments legal blocks params) fun _ => bind legal (named legal blocks hash) fun _ =>
      bind_none legal (evaluate legal (Helper.registered_getD setting.host name) rfl rfl) fun _ => pure legal _

theorem arguments (legal : Legal course recorder setting.host) (blocks : List Block) (arguments : List Argument) :
    (evaluateAll setting blocks arguments).Takes course (argumentsRecord recorder setting blocks arguments) :=
  match arguments with
  | [] => pure legal _
  | first :: rest =>
    bind legal (argument legal blocks first) fun _ =>
      bind_none legal (Takes.arguments legal blocks rest) fun _ => pure legal _

theorem named (legal : Legal course recorder setting.host) (blocks : List Block) (hash : List (String × Argument)) :
    (evaluateHash setting blocks hash).Takes course (hashRecord recorder setting blocks hash) :=
  match hash with
  | [] => pure legal _
  | (_, first) :: rest =>
    bind legal (argument legal blocks first) fun _ =>
      bind_none legal (named legal blocks rest) fun _ => pure legal _

end

theorem nameOf (blocks : List Block) (argument : Argument) :
    (nameOf setting blocks argument).Takes course (nameRecord recorder setting blocks argument) := by
  cases argument with
  | name _ | path _ => exact pure legal _
  | literal _ | call _ _ _ => exact bind_none legal (Takes.argument legal blocks _) fun _ => pure legal _

theorem call (blocks : List Block) (e : Expression) :
    (call setting blocks e).Takes course (expressionRecord recorder setting blocks e) :=
  bind legal (nameOf legal blocks e.head) fun _ => bind legal (arguments legal blocks e.params) fun _ =>
    bind_none legal (named legal blocks e.hash) fun _ => pure legal _

theorem writeOutput (blocks : List Block) (e : Expression) :
    (writeOutput setting blocks e).Takes course (outputRecord recorder setting blocks e) := by
  have called : (writeCall setting blocks e).Takes course (calledRecord recorder setting blocks e) :=
    bind_of_given legal (call legal blocks e) parts_of_call fun _ ⟨body, inverse⟩ =>
      part (own legal (Helper.registered_getD setting.host _) body inverse) _
  unfold Template.writeOutput outputRecord
  split
  · exact called
  · refine bind legal (nameOf legal blocks e.head) fun name => ?_
    cases Helper.ofName? setting.host.functions name with
    | some _ => exact called
    | none =>
      refine bind legal (argument legal blocks e.head) fun found => ?_
      cases found with
      | missing => exact bind legal (call legal blocks e) fun call => writeMissing legal call
      | place _ _ | value _ => exact emit legal _

omit legal in
mutual

theorem element {included : Renderer} {includedRecord : List Element → List Block → Record β}
    (legal : Legal course recorder setting.host)
    (within : ∀ elements blocks, (included elements blocks).Takes course (includedRecord elements blocks))
    (element : Element) (blocks : List Block) :
    (renderElement setting included element blocks).Takes course
      (elementRecord recorder setting included includedRecord element blocks) :=
  match element with
  | .text s => emit legal s
  | .output e => writeOutput legal blocks e
  | .block e names ownLine body inverse => by
    rw [Template.renderElement, elementRecord]
    refine bind legal (call legal blocks e) fun call => ?_
    dsimp only
    rcases found : Helper.ofName? setting.host.functions call.name with _ | helper
    · exact fault legal (.noHelper call.name)
    · refine part (write legal ?_ ?_ (Helper.registered_of_ofName? found)) _
      · exact fun blocks => elements legal within body blocks
      · exact fun blocks => inversePart legal within inverse blocks
  | .decorator e body => by
    rw [Template.renderElement, elementRecord]
    refine bind legal (call legal blocks e) fun call => ?_
    unfold decoratorRecord
    split
    · rcases call.params.map Found.json with _ | ⟨value, params⟩
      · exact fault legal (.other (.missingArgument call.name))
      · cases value with
        | string name =>
          cases body with
          | none => exact fault legal (.other (.invalidArgument call.name))
          | some body => exact bind_none legal (modify legal _) fun _ => pure legal _
        | _ => exact fault legal (.other (.invalidArgument call.name))
    · exact fault legal (.other (.unknownDecorator call.name))
  | .inclusion e indent ownLine body => by
    rw [Template.renderElement, elementRecord]
    refine bind legal (call legal blocks e) fun call => bind legal (findPartial legal call.name) fun found =>
      bind legal (inclusionBlock legal call) fun block => part (locally ?_) _
    refine bind legal (inclusionBody legal within body (block :: blocks)) fun text => ?_
    rcases found with _ | ⟨elements | shown⟩
    · cases text with
      | none => exact fault legal (.other (.unknownPartial call.name))
      | some text => exact pure legal _
    · exact within elements (block :: blocks)
    · exact pure legal _
termination_by structural element

theorem elements {included : Renderer} {includedRecord : List Element → List Block → Record β}
    (legal : Legal course recorder setting.host)
    (within : ∀ elements blocks, (included elements blocks).Takes course (includedRecord elements blocks))
    (elements : List Element) (blocks : List Block) :
    (renderElements setting included elements blocks).Takes course
      (elementsRecord recorder setting included includedRecord elements blocks) :=
  match elements with
  | [] => pure legal _
  | first :: rest =>
    bind legal (element legal within first blocks) fun _ =>
      bind_none legal (Takes.elements legal within rest blocks) fun _ => pure legal _
termination_by structural elements

theorem inversePart {included : Renderer} {includedRecord : List Element → List Block → Record β}
    (legal : Legal course recorder setting.host)
    (within : ∀ elements blocks, (included elements blocks).Takes course (includedRecord elements blocks))
    (inverse : Option (List Element)) (blocks : List Block) :
    (Call.part (renderInverse setting included inverse) blocks).Takes course
      (partRecord recorder setting included includedRecord inverse blocks) :=
  match inverse with
  | none => pure legal _
  | some body => elements legal within body blocks
termination_by structural inverse

theorem inclusionBody {included : Renderer} {includedRecord : List Element → List Block → Record β}
    (legal : Legal course recorder setting.host)
    (within : ∀ elements blocks, (included elements blocks).Takes course (includedRecord elements blocks))
    (body : Option (List Element)) (blocks : List Block) :
    (renderBody setting included body blocks).Takes course
      (partRecord recorder setting included includedRecord body blocks) :=
  match body with
  | none => pure legal _
  | some body =>
    bind_none legal (elements legal within body blocks) fun _ => bind_none legal (modify legal _) fun _ => pure legal _
termination_by structural body

end

theorem renderWithin (depth : Nat) (elements : List Element) (blocks : List Block) :
    (renderWithin setting depth elements blocks).Takes course (withinRecord recorder setting depth elements blocks) := by
  induction depth generalizing elements blocks with
  | zero => exact fault legal (.other .endlessInclusion)
  | succ depth ih => exact Takes.elements legal ih elements blocks

end

end Render.Takes

/-- Whatever a course says about single steps, it says of the whole rendering. -/
theorem render_takes {course : Course β} {recorder : Recorder β} {host : Host} (legal : Legal course recorder host)
    (source : String) (state : State) : course state (renderRecord recorder host source state)
      (failure? (render host source state).1) (render host source state).2 := by
  unfold render renderRecord
  cases read? source with
  | none => exact legal.fault state (.other .malformed)
  | some elements =>
    dsimp only
    rw [renderTree_apply]
    dsimp only
    rw [failure?_map]
    have within : Legal course recorder (⟨host, .object state.bindings⟩ : Setting).host := legal
    exact Render.Takes.renderWithin within depthLimit elements [{}] {} state

end Template

end PromptKernel
