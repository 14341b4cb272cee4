import PromptKernel.Proofs.BuilderCalls
import PromptKernel.Proofs.HostAgreement
import PromptKernel.Proofs.RunEvents

/-! Kernels with the same functions in another order. Functions are looked up by the name that others
call them by or by the one that templates call them by, and groups are looked for among all functions.
As long as names are not shared, nobody but a handler that lists the functions notices their order. -/

namespace PromptKernel

/-- Items that are looked up by keys of their own may come in any order. -/
theorem find?_key_of_perm [BEq β] [LawfulBEq β] {key : α → β} {items others : List α} {sought : β}
    (reordered : items.Perm others) (distinct : (items.map key).Nodup) :
    (items.find? fun item => key item == sought) = others.find? fun item => key item == sought := by
  have otherDistinct : (others.map key).Nodup := (reordered.map key).nodup_iff.mp distinct
  ext item
  rw [find?_key_eq_some_iff distinct, find?_key_eq_some_iff otherDistinct, reordered.mem_iff]

/-! Runs on kernels that differ in the order of their functions. -/

namespace Kernel

/-- The kernels differ in the order of their functions, which share no names. -/
structure Reordered (kernel other : Kernel) : Prop where
  functions : kernel.functions.Perm other.functions
  services : kernel.services = other.services
  defaultService : kernel.defaultService = other.defaultService
  entryPoint : kernel.entryPoint = other.entryPoint
  refs : (kernel.functions.map Function.ref).Nodup
  helperNames : (kernel.functions.map Function.helperName).Nodup

/-- Requests that do not list the functions of the kernel. -/
abbrev Unlisting (request : Request) : Prop := request ≠ .functions

namespace Reordered
variable {kernel other : Kernel} (reordered : kernel.Reordered other)
include reordered

theorem function (ref : FunctionRef) : kernel.function ref = other.function ref := by
  unfold Kernel.function function?
  rw [find?_key_of_perm reordered.functions reordered.refs]

theorem ofName? (name : String) :
    Template.Helper.ofName? kernel.functions name = Template.Helper.ofName? other.functions name := by
  have backwards : kernel.functions.reverse.Perm other.functions.reverse :=
    (List.reverse_perm _).trans (reordered.functions.trans (List.reverse_perm _).symm)
  have distinct : (kernel.functions.reverse.map Function.helperName).Nodup :=
    ((List.reverse_perm _).map _).nodup_iff.mpr reordered.helperNames
  unfold Template.Helper.ofName?
  rw [find?_key_of_perm backwards distinct]

theorem isInGroup (name : String) :
    Template.Helper.isInGroup kernel.functions name = Template.Helper.isInGroup other.functions name :=
  reordered.functions.any_eq

theorem serviceNames : kernel.serviceNames = other.serviceNames := by
  unfold Kernel.serviceNames
  rw [reordered.services, reordered.defaultService]

theorem serviceFor (definition : Definition) : kernel.serviceFor definition = other.serviceFor definition := by
  unfold Kernel.serviceFor select?
  rw [reordered.services, reordered.defaultService]

section
variable {invoke otherInvoke : Invoke} (unlisting : kernel.AsksOnly Unlisting)
  (same : ∀ function, function.AsksOnly Unlisting → invoke function = otherInvoke function)
include unlisting same

theorem alike : (kernel.host invoke).Alike (other.host otherInvoke) where
  named := reordered.ofName?
  grouped := reordered.isInGroup
  called function member arguments := by
    funext state
    rw [Template.Helper.dispatch_apply, Template.Helper.dispatch_apply]
    dsimp only [host]
    rw [same function (unlisting function member)]

theorem render (source : String) :
    Template.render (kernel.host invoke) source = Template.render (other.host otherInvoke) source :=
  (reordered.alike unlisting same).render source

theorem runTemplate (definition : Definition) :
    kernel.runTemplate invoke definition = other.runTemplate otherInvoke definition := by
  unfold Kernel.runTemplate
  simp only [reordered.serviceFor, reordered.render unlisting same]

theorem answer {request : Request} (unlists : Unlisting request) :
    kernel.answer invoke request = other.answer otherInvoke request := by
  cases request with
  | get _ | set _ _ | remove _ | bindings | cancel | isCancelled => rfl
  | functions => exact absurd rfl unlists
  | services => exact congrArg (fun names => (pure names : Run ServiceNames)) reordered.serviceNames
  | render source => exact congrArg Run.attempt (reordered.render unlisting same source)
  | invoke ref fork =>
    funext state
    rw [answer_invoke_apply, answer_invoke_apply, ← reordered.function]
    cases found : kernel.function ref with
    | error error => rfl
    | ok function =>
      have member := mem_of_function found
      dsimp only
      rw [same function (unlisting function member)]

theorem runProgram {program : Program α} (unlists : program.AsksOnly Unlisting) :
    kernel.runProgram invoke program = other.runProgram otherInvoke program := by
  induction program with
  | done value => rfl
  | fail error => rfl
  | ask request next ih =>
    obtain ⟨unlists, rest⟩ := unlists
    unfold Kernel.runProgram
    rw [reordered.answer unlisting same unlists]
    exact bind_congr fun reply => ih reply (rest reply)

theorem execute {function : Function} (unlists : function.AsksOnly Unlisting) :
    kernel.execute invoke function = other.execute otherInvoke function := by
  unfold Kernel.execute
  cases function with
  | template definition =>
    dsimp only
    rw [reordered.runTemplate unlisting same]
  | native definition handler =>
    dsimp only
    simp only [reordered.runProgram unlisting same (unlists _)]

end

theorem invokeWithin (unlisting : kernel.AsksOnly Unlisting) (depth : Nat) {function : Function}
    (unlists : function.AsksOnly Unlisting) :
    kernel.invokeWithin depth function = other.invokeWithin depth function := by
  induction depth generalizing function with
  | zero => rfl
  | succ depth ih => exact reordered.execute unlisting (fun function unlists => ih unlists) unlists

theorem runWithin (unlisting : kernel.AsksOnly Unlisting) (depth : Nat) {function : Function}
    (unlists : function.AsksOnly Unlisting) : kernel.runWithin depth function = other.runWithin depth function := by
  unfold Kernel.runWithin
  rw [reordered.invokeWithin unlisting depth unlists]

theorem callWithin (unlisting : kernel.AsksOnly Unlisting) (depth : Nat) (ref : FunctionRef) :
    kernel.callWithin depth ref = other.callWithin depth ref := by
  cases found : kernel.function ref with
  | error error =>
    funext state
    unfold Kernel.callWithin
    rw [← reordered.function, found, Run.bind_apply, Run.bind_apply, Run.ofExcept_apply]
  | ok function =>
    have member := mem_of_function found
    rw [callWithin_eq_runWithin found, callWithin_eq_runWithin ((reordered.function ref).symm.trans found)]
    exact reordered.runWithin unlisting depth (unlisting function member)

end Reordered

end Kernel

/-! What kernels do when they are asked, one task after another. -/

inductive Output
  | text (text : String)
  | result (result : Result)

/-- What the task comes to when functions call each other at most up to a depth. -/
def Task.perform (kernel : Kernel) (depth : Nat) : Task → Run Output
  | render source => Output.text <$> Template.render (kernel.host (kernel.invokeWithin depth)) source
  | run function => Output.result <$> kernel.runWithin depth function
  | call ref => Output.result <$> kernel.callWithin depth ref
  | entryPoint =>
    match kernel.entryPoint with
    | some ref => Output.result <$> kernel.callWithin depth ref
    | none => throw (.config .noEntryPoint)

theorem Task.perform_depthLimit (kernel : Kernel) (task : Task) : task.perform kernel Kernel.depthLimit =
    match task with
    | render source => Output.text <$> kernel.render source
    | run function => Output.result <$> kernel.run function
    | call ref => Output.result <$> kernel.call ref
    | entryPoint => Output.result <$> kernel.runEntryPoint := by
  cases task with
  | render _ | run _ | call _ => rfl
  | entryPoint =>
    unfold perform Kernel.runEntryPoint
    cases kernel.entryPoint <;> rfl

/-- How a task ended, and the state after it. -/
abbrev Outcome := Except Error Output × State

namespace Kernel

/-- Tasks in a row. Each one is chosen, with the state it starts from, by what those before it came to. -/
def session (kernel : Kernel) (depth : Nat) (next : List Outcome → Task × State) : Nat → List Outcome
  | 0 => []
  | count + 1 =>
    let outcomes := kernel.session depth next count
    let outcome : Outcome := (next outcomes).1.perform kernel depth (next outcomes).2
    outcomes ++ [outcome]

variable {kernel other : Kernel}

theorem Reordered.perform (reordered : kernel.Reordered other) (unlisting : kernel.AsksOnly Unlisting) (depth : Nat)
    {task : Task} (unlists : task.AsksOnly Unlisting) : task.perform kernel depth = task.perform other depth := by
  unfold Task.perform
  cases task with
  | render source =>
    have same : ∀ function : Function, function.AsksOnly Unlisting →
        kernel.invokeWithin depth function = other.invokeWithin depth function :=
      fun function unlists => reordered.invokeWithin unlisting depth unlists
    dsimp only
    rw [reordered.render unlisting same]
  | run function =>
    dsimp only
    rw [reordered.runWithin unlisting depth unlists]
  | call ref =>
    dsimp only
    rw [reordered.callWithin unlisting]
  | entryPoint =>
    dsimp only
    simp only [← reordered.entryPoint, reordered.callWithin unlisting]

theorem Reordered.session (reordered : kernel.Reordered other) (unlisting : kernel.AsksOnly Unlisting) (depth : Nat)
    {next : List Outcome → Task × State} (unlists : ∀ outcomes, (next outcomes).1.AsksOnly Unlisting) (count : Nat) :
    kernel.session depth next count = other.session depth next count := by
  induction count with
  | zero => rfl
  | succ count ih =>
    unfold Kernel.session
    dsimp only
    rw [ih, reordered.perform unlisting depth (unlists _)]

end Kernel

/-- The order of functions without shared names makes no difference to whether a kernel comes of them. -/
theorem Builder.build_reordered {builder other : Builder} (reordered : builder.functions.Perm other.functions)
    (services : builder.services = other.services) (defaultService : builder.defaultService = other.defaultService)
    (entryPoint : builder.entryPoint = other.entryPoint) (distinct : (builder.functions.map Function.ref).Nodup) :
    other.build = builder.build.map ({ · with functions := other.functions }) := by
  have otherDistinct : (other.functions.map Function.ref).Nodup := (reordered.map _).nodup_iff.mp distinct
  unfold build
  rw [(duplicate?_eq_none_iff [] _).mpr ⟨distinct, fun _ _ => List.not_mem_nil⟩,
    (duplicate?_eq_none_iff [] _).mpr ⟨otherDistinct, fun _ _ => List.not_mem_nil⟩]
  simp only [reordered.any_eq, entryPoint]
  have standard : builder.defaultPosition = other.defaultPosition := by
    unfold defaultPosition
    rw [services, defaultService]
  rw [standard, services]
  cases other.entryPoint.filter fun ref => !other.functions.any (·.ref == ref) with
  | some ref => rfl
  | none => cases other.defaultPosition <;> rfl

namespace Kernel

/-- Builders hold the same functions in another order, and all else is the same. No two functions share
a name, neither the one for functions nor the one for templates, and no handler lists the functions of
its kernel. Then both make a kernel or report the same, and from there on nothing tells the kernels apart.
Tasks from the same states end in the same way and leave the same states, with all that was asked of
services in them, and so does every row of tasks. -/
theorem registration_order_irrelevant {builder other : Builder} (reordered : builder.functions.Perm other.functions)
    (services : builder.services = other.services) (defaultService : builder.defaultService = other.defaultService)
    (entryPoint : builder.entryPoint = other.entryPoint) (refs : (builder.functions.map Function.ref).Nodup)
    (helperNames : (builder.functions.map Function.helperName).Nodup)
    (unlisting : ∀ function ∈ builder.functions, function.AsksOnly Unlisting) :
    other.build = builder.build.map ({ · with functions := other.functions }) ∧
    ∀ kernel otherKernel, builder.build = .ok kernel → other.build = .ok otherKernel → ∀ depth,
      (∀ task : Task, task.AsksOnly Unlisting → ∀ state,
        task.perform kernel depth state = task.perform otherKernel depth state) ∧
      ∀ next : List Outcome → Task × State, (∀ outcomes, (next outcomes).1.AsksOnly Unlisting) →
        ∀ count, kernel.session depth next count = otherKernel.session depth next count := by
  have rebuilt : other.build = builder.build.map ({ · with functions := other.functions }) :=
    Builder.build_reordered reordered services defaultService entryPoint refs
  refine ⟨rebuilt, fun kernel otherKernel built otherBuilt depth => ?_⟩
  rw [otherBuilt, built] at rebuilt
  cases rebuilt
  obtain ⟨functions, -⟩ := Builder.functions_of_build built
  rw [← functions] at reordered refs helperNames unlisting
  have twins : kernel.Reordered { kernel with functions := other.functions } :=
    ⟨reordered, rfl, rfl, rfl, refs, helperNames⟩
  exact ⟨fun task unlists state => congrFun (twins.perform unlisting depth unlists) state,
    fun next unlists count => twins.session unlisting depth unlists count⟩

/-- Tells its caller which services there are. -/
def surveying : Function :=
  .native { group := "Kernel", name := "Survey" } fun _ =>
    .ask .services fun names => .done (.array (names.all.map .string))

def surveyed : Function :=
  .template { group := "Chat", name := "Ask", template := some "\x7b\x7bKernel_Survey\x7d\x7d" }

/-- A function and the one in whose template it is called, either of them first. -/
theorem registration_order_irrelevant_swapped :
    let builder : Builder := ⟨[surveying, surveyed], [echoing "a"], none, some surveyed.ref⟩
    let other : Builder := ⟨[surveyed, surveying], [echoing "a"], none, some surveyed.ref⟩
    let kernel : Kernel := ⟨[surveying, surveyed], [echoing "a"], some 0, some surveyed.ref⟩
    let otherKernel : Kernel := ⟨[surveyed, surveying], [echoing "a"], some 0, some surveyed.ref⟩
    builder.build = .ok kernel ∧ other.build = .ok otherKernel ∧
    (∀ function ∈ builder.functions, function.AsksOnly Unlisting) ∧
    ∀ depth state, Task.entryPoint.perform kernel depth state = Task.entryPoint.perform otherKernel depth state := by
  intro builder other kernel otherKernel
  have built : builder.build = .ok kernel := rfl
  have otherBuilt : other.build = .ok otherKernel := rfl
  have unlisting : ∀ function ∈ builder.functions, function.AsksOnly Unlisting := by
    rintro function (_ | ⟨_, _ | ⟨_, ⟨⟩⟩⟩)
    · exact fun _ => ⟨nofun, fun _ => trivial⟩
    · trivial
  have swapped : builder.functions.Perm other.functions := List.Perm.swap surveyed surveying []
  have refs : (builder.functions.map Function.ref).Nodup := by decide
  have helperNames : (builder.functions.map Function.helperName).Nodup := by decide
  obtain ⟨-, same⟩ := registration_order_irrelevant swapped rfl rfl rfl refs helperNames unlisting
  exact ⟨built, otherBuilt, unlisting, fun depth =>
    (same kernel otherKernel built otherBuilt depth).1 .entryPoint trivial⟩

end Kernel

end PromptKernel
