import PromptKernel.Proofs.EventAccounts
import PromptKernel.Proofs.FailureSlots

/-! Where the error of a failed run comes from. If handlers hand on the errors of what they call, it is
that of the first thing that went wrong in the run, and it names the functions that were under way then. -/

namespace PromptKernel

namespace Error

theorem rootCause_within (error : Error) (under : List FunctionRef) :
    (error.within under).rootCause = error.rootCause := by
  induction under with
  | nil => rfl
  | cons ref under ih => exact ih

theorem chain_within (error : Error) (under : List FunctionRef) :
    (error.within under).chain = under.map (fun ref => (ref.group, ref.name)) ++ error.chain := by
  induction under with
  | nil => rfl
  | cons ref under ih => exact congrArg ((ref.group, ref.name) :: ·) ih

/-- One mention for each function, and the text of what went wrong in the innermost one. -/
theorem message_eq_join (error : Error) : error.message =
    String.join (error.chain.map fun (group, name) => "function `" ++ group ++ "." ++ name ++ "` failed: ") ++
      error.rootCause.message := by
  induction error with
  | inFunction group name source ih =>
    change "function `" ++ group ++ "." ++ name ++ "` failed: " ++ source.message = _
    rw [ih, chain, List.map_cons, String.join_cons]
    exact String.append_assoc.symm
  | _ => exact String.empty_append.symm

end Error

namespace Cause

/-- Only handlers can fail with errors that name functions by themselves. -/
theorem chain_error {cause : Cause} (made : ∀ error, cause ≠ .handler error) :
    cause.error.chain = [] ∧ cause.error.rootCause = cause.error := by
  cases cause with
  | handler error => exact absurd rfl (made error)
  | engine fault => cases fault <;> exact ⟨rfl, rfl⟩
  | helper name complaint => cases complaint <;> exact ⟨rfl, rfl⟩
  | _ => exact ⟨rfl, rfl⟩

theorem eq_engine_of_template {cause : Cause} {fault : TemplateFault} (template : cause.error = .template fault) :
    cause = .engine (.other fault) ∨ cause = .handler (.template fault) := by
  cases cause with
  | engine reported =>
    cases reported with
    | noHelper _ => cases template
    | other _ => cases template; exact .inl rfl
  | handler _ => exact .inr (congrArg handler template)
  | helper name complaint => cases complaint <;> cases template
  | _ => cases template

end Cause

/-- The error of a failed run as what becomes of its cause. -/
structure Origin (events : List Event) (error : Error) (before : List Event) (cause : Cause) (later : List Event) :
    Prop where
  whole : events = before ++ .raise cause :: later
  /-- Nothing went wrong before. -/
  first : ∀ cause, .raise cause ∉ before
  /-- Functions are only left after it. -/
  last : ∀ event ∈ later, event.winds = true
  /-- The error names the functions that were under way, each of them once. -/
  wrapped : error = cause.error.within (underWay [] before)
  rootCause : error.rootCause = cause.error.rootCause
  chain : error.chain = (underWay [] before).map (fun ref => (ref.group, ref.name)) ++ cause.error.chain
  message : error.message = String.join (error.chain.map fun (group, name) =>
    "function `" ++ group ++ "." ++ name ++ "` failed: ") ++ error.rootCause.message
  own : (∀ error, cause ≠ .handler error) → cause.error.chain = [] ∧ cause.error.rootCause = cause.error
  engine : ∀ fault, cause.error = .template fault → cause = .engine (.other fault) ∨ cause = .handler (.template fault)

theorem Fails.exists_origin {events : List Event} {error : Error} (failed : Fails events error) :
    ∃ before cause later, Origin events error before cause later := by
  obtain ⟨before, cause, later, inner, whole, first, last, rfl, under⟩ := failed.origin
  have inside : underWay [] before = inner := under []
  refine ⟨before, cause, later, whole, first, last, by rw [inside], Error.rootCause_within _ inner, ?_,
    Error.message_eq_join _, Cause.chain_error, fun _ => Cause.eq_engine_of_template⟩
  rw [inside, Error.chain_within]

namespace Template

/-- Why a call of a function from a template does not get as far as to the function. -/
inductive Helper.Refuses (function : Function) (call : Call) (state : State) : Cause → Prop
  | noMap (param : Found) (alone : call.params = [param]) (other : ∀ fields, param.json ≠ .object fields)
      (given : param.json ≠ .null) :
      Refuses function call state (.helper call.name (.invalid "the positional argument must be a map"))
  | several (several : 2 ≤ call.params.length) :
      Refuses function call state (.helper call.name (.invalid "at most one positional argument is allowed"))
  | unsupplied (read : functionArguments call = .ok arguments)
      (missing : function.definition.missing? (some arguments) state.bindings = some parameter) :
      Refuses function call state (.unsupplied parameter.name function.definition.name)
  | cancelled (read : functionArguments call = .ok arguments)
      (supplied : function.definition.missing? (some arguments) state.bindings = none)
      (cancelled : state.cancelled = true) :
      Refuses function call state (.cancellation (.call function.ref))

namespace Helper.Refuses
variable {function : Function} {call : Call} {state : State} {cause : Cause}

theorem functionArguments_noMap {param : Found} (alone : call.params = [param])
    (other : ∀ fields, param.json ≠ .object fields) (given : param.json ≠ .null) :
    functionArguments call = .error (.invalidHelperArguments call.name "the positional argument must be a map") := by
  unfold functionArguments
  rw [alone, List.map_cons, List.map_nil]
  cases value : param.json with
  | object fields => exact absurd value (other fields)
  | null => exact absurd value given
  | _ => rfl

theorem functionArguments_several (several : 2 ≤ call.params.length) :
    functionArguments call = .error (.invalidHelperArguments call.name "at most one positional argument is allowed") := by
  unfold functionArguments
  rcases given : call.params with _ | ⟨first, _ | ⟨second, params⟩⟩ <;> rw [given] at several
  · cases several
  · exact absurd several (by simp)
  · rw [List.map_cons, List.map_cons]
    cases first.json <;> rfl

/-- The refusal is all that happens, and its error is not one of the function's. -/
theorem apply (refused : Refuses function call state cause) (host : Host) (calls : CallEvents) (progress : Progress) :
    functionRecord (.events calls) function call progress state = [.raise cause] ∧
      (callFunction host function call progress state).1 = .error cause.error := by
  rw [callFunction_apply]
  unfold functionRecord
  cases refused with
  | noMap param alone other given =>
    rw [functionArguments_noMap alone other given, alone]
    exact ⟨rfl, rfl⟩
  | several several =>
    rw [functionArguments_several several]
    dsimp only
    rw [if_neg (by omega)]
    exact ⟨rfl, rfl⟩
  | unsupplied read missing =>
    rw [read]
    dsimp only [Recorder.events, Event.ofCall]
    rw [dispatch_apply, Definition.bind, missing]
    exact ⟨rfl, rfl⟩
  | cancelled read supplied cancelled =>
    rw [read]
    dsimp only [Recorder.events, Event.ofCall]
    rw [dispatch_apply, Definition.bind, supplied]
    dsimp only
    rw [if_pos cancelled, if_pos cancelled]
    exact ⟨rfl, rfl⟩

end Helper.Refuses

end Template

namespace Kernel

/-- A failed run ends with the error of the first thing that went wrong in it, wrapped once by each function that
was under way then, and a run in which something goes wrong fails. Faults of the engine alone become errors of
templates, unless a handler makes such an error up. Calls that are refused in a template are not charged to the
function. What a rendering hands back is what its helpers left in the slot, or else the fault of the engine. -/
theorem error_names_functions_under_way {kernel : Kernel} (passes : kernel.PassesOn) {task : Task}
    (own : task.PassesOn) (depth : Nat) (state : State) :
    (∀ error, (task.ends kernel depth state).1 = some error →
      ∃ before cause later, Origin (task.events kernel depth state) error before cause later) ∧
    ((task.ends kernel depth state).1 = none → ∀ cause, .raise cause ∉ task.events kernel depth state) ∧
    (∀ function call state cause, Template.Helper.Refuses function call state cause → ∀ progress,
      Template.Helper.functionRecord (.events (kernel.callEvents depth)) function call progress state =
        [.raise cause] ∧
      (Template.Helper.callFunction (kernel.host (kernel.invokeWithin depth)) function call progress state).1 =
        .error cause.error) ∧
    ∀ source state,
      let host := kernel.host (kernel.invokeWithin depth)
      failure? (Template.render host source state).1 =
        Template.handBack (Template.renderReports host source state) := by
  have explains := (task.events_account kernel depth state).explains ⟨passes, own⟩
  refine ⟨fun error ended => ?_, fun ended cause => ?_, fun function call state cause refused => refused.apply _ _,
    fun source => Template.failure?_render _ source⟩
  · rw [ended] at explains
    exact Fails.exists_origin explains
  · rw [ended] at explains
    exact explains.silent cause

def outer : Function :=
  .native { group := "T", name := "a" } (Script.sequence [.set "x" .null, .invoke ⟨"T", "b"⟩ false]).handler

def broken : Function := .native { group := "T", name := "b" } (Script.fail "broken").handler

theorem read?_outer : Template.read? "\x7b\x7bT_a\x7d\x7d" =
    some [.output ⟨.path (.steps "T_a" [.key "T_a"]), [], []⟩] := by
  rw [Template.read?_of_expand "\x7b\x7bT_a\x7d\x7d" (by decide +kernel)]
  simp only [String.reduceToList]
  rfl

theorem read?_broken : Template.read? "\x7b\x7bT_b 1\x7d\x7d" =
    some [.output ⟨.name "T_b", [.literal (.integer 1)], []⟩] := by
  rw [Template.read?_of_expand "\x7b\x7bT_b 1\x7d\x7d" (by decide +kernel)]
  simp only [String.reduceToList]
  rfl

/-- A template calls a function, which calls another one, which fails. If the other one is called with an
argument that is no map, it is not entered. -/
theorem error_names_functions_under_way_nested :
    let kernel : Kernel := ⟨[outer, broken], [], none, none⟩
    let nested : Task := .render "\x7b\x7bT_a\x7d\x7d"
    let refused : Task := .render "\x7b\x7bT_b 1\x7d\x7d"
    let error : Error := .inFunction "T" "a" (.inFunction "T" "b" (.native (.reported "broken")))
    let invalid : Error := .invalidHelperArguments "T_b" "the positional argument must be a map"
    kernel.PassesOn ∧ nested.PassesOn ∧ refused.PassesOn ∧
    (nested.ends kernel 2 {}).1 = some error ∧ (refused.ends kernel 2 {}).1 = some invalid ∧
    (∃ before cause later, Origin (nested.events kernel 2 {}) error before cause later) ∧
    (∃ before cause later, Origin (refused.events kernel 2 {}) invalid before cause later) ∧
    nested.events kernel 2 {} = [.enter ⟨"T", "a"⟩ .template, .enter ⟨"T", "b"⟩ .handler,
      .raise (.handler (.native (.reported "broken"))), .leave ⟨"T", "b"⟩, .leave ⟨"T", "a"⟩] ∧
    refused.events kernel 2 {} =
      [.raise (.helper "T_b" (.invalid "the positional argument must be a map"))] ∧
    error.message = "function `T.a` failed: function `T.b` failed: native function failed: broken" := by
  intro kernel nested refused error invalid
  have passes : kernel.PassesOn := by
    intro function member
    simp only [kernel, List.mem_cons, List.not_mem_nil, or_false] at member
    rcases member with rfl | rfl <;> exact fun arguments => Script.passesOn arguments _
  have ended : (nested.ends kernel 2 {}).1 = some error := by
    change failure? (Template.render (kernel.host (kernel.invokeWithin 2)) "\x7b\x7bT_a\x7d\x7d" {}).1 = some error
    rw [Template.render_of_read? read?_outer, Template.renderTree_apply]
    rfl
  have barred : (refused.ends kernel 2 {}).1 = some invalid := by
    change failure? (Template.render (kernel.host (kernel.invokeWithin 2)) "\x7b\x7bT_b 1\x7d\x7d" {}).1 = some invalid
    rw [Template.render_of_read? read?_broken, Template.renderTree_apply]
    rfl
  have own : nested.PassesOn := trivial
  have other : refused.PassesOn := trivial
  refine ⟨passes, own, other, ended, barred,
    (error_names_functions_under_way passes own 2 {}).1 error ended,
    (error_names_functions_under_way passes other 2 {}).1 invalid barred, ?_, ?_, by decide +kernel⟩
  · dsimp only [nested, Task.events, Template.renderRecord]
    rw [read?_outer]
    rfl
  · dsimp only [refused, Task.events, Template.renderRecord]
    rw [read?_broken]
    rfl

end Kernel

end PromptKernel
