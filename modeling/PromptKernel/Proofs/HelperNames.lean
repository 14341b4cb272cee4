import PromptKernel.Kernel.Run
import PromptKernel.Proofs.BuiltKernels
import PromptKernel.Proofs.RenderLogic
import PromptKernel.Proofs.WrittenNames

/-! The names under which templates call functions. A helper name puts a group and a name together,
and two functions that differ in both may come to the same text; a call then runs the function that
was added last. Nothing else stands between a call and its function: no function takes the name of a
helper of every template. -/

namespace PromptKernel

theorem Text.append_cons_eq_iff (a b c d : List α) (mark : α) :
    a ++ mark :: b = c ++ mark :: d ↔
      (a = c ∧ b = d) ∨ (∃ middle, c = a ++ mark :: middle ∧ b = middle ++ mark :: d) ∨
        ∃ middle, a = c ++ mark :: middle ∧ d = middle ++ mark :: b := by
  constructor
  · intro same
    rcases List.append_eq_append_iff.mp same with ⟨extra, longer, rest⟩ | ⟨extra, longer, rest⟩
    · cases extra with
      | nil => exact .inl ⟨by simpa using longer.symm, by simpa using rest⟩
      | cons first middle =>
        obtain ⟨rfl, tail⟩ := List.cons.inj rest
        exact .inr (.inl ⟨middle, longer, tail⟩)
    · cases extra with
      | nil => exact .inl ⟨by simpa using longer, by simpa using rest.symm⟩
      | cons first middle =>
        obtain ⟨rfl, tail⟩ := List.cons.inj rest
        exact .inr (.inr ⟨middle, longer, tail⟩)
  · rintro (⟨rfl, rfl⟩ | ⟨middle, rfl, rfl⟩ | ⟨middle, rfl, rfl⟩) <;> simp

namespace Definition

/-- The longer group goes on into what is the name of the other function. -/
def Extends (longer shorter : Definition) : Prop :=
  ∃ middle, longer.group = shorter.group ++ "_" ++ middle ∧ shorter.name = middle ++ "_" ++ longer.name

/-- The groups and names differ and read the same when put together. -/
def Clashes (first second : Definition) : Prop := first.Extends second ∨ second.Extends first

theorem toList_helperName (definition : Definition) :
    definition.helperName.toList = definition.group.toList ++ '_' :: definition.name.toList := by
  simp [helperName]

theorem extends_iff (longer shorter : Definition) :
    longer.Extends shorter ↔ ∃ middle, longer.group.toList = shorter.group.toList ++ '_' :: middle ∧
      shorter.name.toList = middle ++ '_' :: longer.name.toList := by
  constructor
  · rintro ⟨middle, group, name⟩
    exact ⟨middle.toList, by simp [group], by simp [name]⟩
  · rintro ⟨middle, group, name⟩
    refine ⟨String.ofList middle, String.toList_inj.mp ?_, String.toList_inj.mp ?_⟩
    · simpa using group
    · simpa using name

theorem helperName_eq_iff (first second : Definition) :
    first.helperName = second.helperName ↔
      (first.group = second.group ∧ first.name = second.name) ∨ first.Clashes second := by
  rw [← String.toList_inj, toList_helperName, toList_helperName, Text.append_cons_eq_iff, Clashes,
    extends_iff, extends_iff, String.toList_inj, String.toList_inj]
  exact or_congr_right or_comm

end Definition

theorem Function.mark_mem_helperName (function : Function) : '_' ∈ function.helperName.toList := by
  rw [Function.helperName, Definition.toList_helperName]
  exact List.mem_append_right _ List.mem_cons_self

namespace Template

theorem Helper.mark_not_mem_builtin {name : String} {helper : Helper} (found : Helper.builtin? name = some helper) :
    '_' ∉ name.toList := by
  unfold Helper.builtin? at found
  split at found <;> first | decide | cases found

/-- A function has a mark in its helper name, so names without one are not those of functions. -/
theorem Helper.ofName?_of_unmarked {name : String} (unmarked : '_' ∉ name.toList) (functions : List Function) :
    Helper.ofName? functions name = Helper.builtin? name := by
  have unlike : functions.reverse.find? (fun function => function.helperName == name) = none := by
    refine List.find?_eq_none.mpr fun function _ same => unmarked ?_
    exact beq_iff_eq.mp same ▸ function.mark_mem_helperName
  unfold Helper.ofName?
  rw [unlike]

theorem Helper.ofName?_of_builtin? {name : String} {helper : Helper} (found : Helper.builtin? name = some helper)
    (functions : List Function) : Helper.ofName? functions name = some helper :=
  (Helper.ofName?_of_unmarked (Helper.mark_not_mem_builtin found) functions).trans found

theorem Helper.ofName?_of_mem {after : List Function} {function : Function} (member : function ∈ after)
    (before : List Function) : ∃ owner ∈ after, owner.helperName = function.helperName ∧
      Helper.ofName? (before ++ after) function.helperName = some (.function owner) := by
  have found : (after.reverse.find? fun other => other.helperName == function.helperName).isSome :=
    List.find?_isSome.mpr ⟨function, List.mem_reverse.mpr member, beq_self_eq_true _⟩
  obtain ⟨owner, found⟩ := Option.isSome_iff_exists.mp found
  refine ⟨owner, List.mem_reverse.mp (List.mem_of_find?_eq_some found), by simpa using List.find?_some found, ?_⟩
  unfold Helper.ofName?
  rw [List.reverse_append, List.find?_append, found]
  rfl

theorem Helper.ofName?_of_last {after : List Function} {function : Function}
    (last : ∀ later ∈ after, later.helperName ≠ function.helperName) (before : List Function) :
    Helper.ofName? (before ++ function :: after) function.helperName = some (.function function) := by
  have unnamed : after.reverse.find? (fun later => later.helperName == function.helperName) = none :=
    List.find?_eq_none.mpr fun later member same => last later (List.mem_reverse.mp member) (beq_iff_eq.mp same)
  unfold Helper.ofName?
  rw [List.reverse_append, List.reverse_cons, List.append_assoc, List.find?_append, unnamed]
  simp

/-- The name is that of the helper, and every call that is written with the name runs the helper:
in text, with a body, or as an argument. -/
structure Runs (host : Host) (name : String) (helper : Helper) : Prop where
  named : Helper.ofName? host.functions name = some helper
  output : ∀ context blocks (e : Expression), e.writtenName? = some name →
    writeOutput ⟨host, context⟩ blocks e = do
      let call ← call ⟨host, context⟩ blocks e
      Render.part (·.enter false) (helper.write host call)
  block : ∀ context included blocks (e : Expression) names ownLine body inverse, e.writtenName? = some name →
    renderElement ⟨host, context⟩ included (.block e names ownLine body inverse) blocks = do
      let call ← call ⟨host, context⟩ blocks e
      let body := some (renderElements ⟨host, context⟩ included body)
      let inverse := renderInverse ⟨host, context⟩ included inverse
      Render.part (·.enter ownLine) (helper.write host { call with names, body, inverse })
  argument : ∀ context blocks params hash,
    evaluate ⟨host, context⟩ blocks (.call name params hash) = do
      let params ← evaluateAll ⟨host, context⟩ blocks params
      let hash ← evaluateHash ⟨host, context⟩ blocks hash
      return .value (← helper.evaluate host { name, params, hash, blocks })

theorem nameOf_of_writtenName? {e : Expression} {name : String} (written : e.writtenName? = some name)
    (setting : Setting) (blocks : List Block) : nameOf setting blocks e.head = pure name := by
  obtain ⟨head, params, hash⟩ := e
  cases head <;> simp only [Expression.writtenName?, Option.some.injEq, reduceCtorEq] at written <;>
    subst written <;> rfl

theorem call_of_writtenName? {e : Expression} {name : String} (written : e.writtenName? = some name)
    (setting : Setting) (blocks : List Block) :
    call setting blocks e = do
      let params ← evaluateAll setting blocks e.params
      let hash ← evaluateHash setting blocks e.hash
      return { name, params, hash, blocks } := by
  unfold call
  rw [nameOf_of_writtenName? written, pure_bind]

theorem runs_of_ofName? {host : Host} {name : String} {helper : Helper}
    (found : Helper.ofName? host.functions name = some helper) : Runs host name helper where
  named := found
  output context blocks e written := by
    have called : writeCall ⟨host, context⟩ blocks e = (do
        let call ← call ⟨host, context⟩ blocks e
        Render.part (·.enter false) (helper.write host call)) := by
      unfold writeCall
      rw [call_of_writtenName? written]
      simp only [bind_assoc, pure_bind, found, Option.getD_some]
    unfold writeOutput
    split
    · exact called
    · rw [nameOf_of_writtenName? written, pure_bind, found]
      exact called
  block context included blocks e names ownLine body inverse written := by
    rw [renderElement, call_of_writtenName? written]
    simp only [bind_assoc, pure_bind, found]
  argument context blocks params hash := by
    rw [evaluate, found]
    rfl

end Template

theorem Function.helperName_eq_iff_clashes {first second : Function} (different : first.ref ≠ second.ref) :
    first.helperName = second.helperName ↔ first.definition.Clashes second.definition := by
  refine (Definition.helperName_eq_iff first.definition second.definition).trans (or_iff_right ?_)
  rintro ⟨group, name⟩
  exact different (by simp only [Function.ref, group, name])

namespace Kernel
open Template

variable {kernel : Kernel} {before after : List Function} {function : Function}

theorem ref_ne_of_later (distinct : (kernel.functions.map Function.ref).Nodup)
    (registered : kernel.functions = before ++ function :: after) {later : Function} (member : later ∈ after) :
    later.ref ≠ function.ref := by
  rw [registered, List.map_append, List.map_cons, List.nodup_append, List.nodup_cons] at distinct
  exact fun same => distinct.2.1.1 (same ▸ List.mem_map_of_mem member)

theorem runs_owner (registered : kernel.functions = before ++ function :: after) (invoke : Invoke) :
    ∃ owner ∈ function :: after, owner.helperName = function.helperName ∧
      Runs (kernel.host invoke) function.helperName (.function owner) := by
  obtain ⟨owner, member, same, found⟩ :=
    Helper.ofName?_of_mem (List.mem_cons_self : function ∈ function :: after) before
  rw [← registered] at found
  exact ⟨owner, member, same, runs_of_ofName? found⟩

theorem runs_function_iff (distinct : (kernel.functions.map Function.ref).Nodup)
    (registered : kernel.functions = before ++ function :: after) (invoke : Invoke) :
    Runs (kernel.host invoke) function.helperName (.function function) ↔
      ∀ later ∈ after, ¬later.definition.Clashes function.definition := by
  constructor
  · intro runs later member clashes
    have same : later.helperName = function.helperName :=
      (Function.helperName_eq_iff_clashes (ref_ne_of_later distinct registered member)).mpr clashes
    obtain ⟨owner, inside, -, found⟩ := Helper.ofName?_of_mem member (before ++ [function])
    rw [List.append_assoc, List.singleton_append, ← registered, same] at found
    obtain rfl : function = owner := by simpa using runs.named.symm.trans found
    exact ref_ne_of_later distinct registered inside rfl
  · intro clear
    have found := Helper.ofName?_of_last (fun later member same => clear later member
      ((Function.helperName_eq_iff_clashes (ref_ne_of_later distinct registered member)).mp same)) before
    rw [← registered] at found
    exact runs_of_ofName? found

theorem runs_every_function_iff (distinct : (kernel.functions.map Function.ref).Nodup) (invoke : Invoke) :
    (∀ function ∈ kernel.functions, Runs (kernel.host invoke) function.helperName (.function function)) ↔
      kernel.functions.Pairwise fun earlier later => ¬later.definition.Clashes earlier.definition := by
  constructor
  · intro reached
    refine List.pairwise_iff_getElem.mpr fun i j _ inside less => ?_
    have registered : kernel.functions =
        kernel.functions.take i ++ kernel.functions[i] :: kernel.functions.drop (i + 1) := by
      rw [← List.drop_eq_getElem_cons, List.take_append_drop]
    refine (runs_function_iff distinct registered invoke).mp (reached _ (List.getElem_mem _)) _ ?_
    refine List.mem_drop_iff_getElem.mpr ⟨j - (i + 1), by omega, ?_⟩
    congr 1
    omega
  · intro clear function member
    obtain ⟨before, after, registered⟩ := List.append_of_mem member
    rw [registered, List.pairwise_append, List.pairwise_cons] at clear
    exact (runs_function_iff distinct registered invoke).mpr clear.2.1.1

/-- A call by the helper name of a function runs the function that was added last under this name.
So all functions are reached exactly if no two clash, and a single one if no later one clashes with
it. A helper name that is an identifier is read as a call by it wherever it is written, and no
function takes the place of a helper of every template. -/
theorem function_calls_reach_iff {builder : Builder} {kernel : Kernel} (built : builder.build = .ok kernel)
    (invoke : Invoke) :
    ((∀ function ∈ kernel.functions, Runs (kernel.host invoke) function.helperName (.function function)) ↔
      kernel.functions.Pairwise fun earlier later => ¬later.definition.Clashes earlier.definition) ∧
    (∀ before function after, kernel.functions = before ++ function :: after →
      (∃ owner ∈ function :: after, owner.helperName = function.helperName ∧
        Runs (kernel.host invoke) function.helperName (.function owner)) ∧
      (Runs (kernel.host invoke) function.helperName (.function function) ↔
        ∀ later ∈ after, ¬later.definition.Clashes function.definition)) ∧
    (∀ function ∈ kernel.functions, IsIdentifier function.helperName.toList →
      ReadsAsCall function.helperName.toList) ∧
    ∀ name helper, Helper.builtin? name = some helper → Runs (kernel.host invoke) name helper := by
  obtain ⟨-, distinct⟩ := Builder.functions_of_build built
  refine ⟨runs_every_function_iff distinct invoke, ?_, ?_, ?_⟩
  · intro before function after registered
    exact ⟨runs_owner registered invoke, runs_function_iff distinct registered invoke⟩
  · exact fun function _ legal => readsAsCall legal function.mark_mem_helperName
  · exact fun name helper found => runs_of_ofName? (Helper.ofName?_of_builtin? found kernel.functions)

def leading : Function := .native { group := "a", name := "b_c" } fun _ => .done (.string "first")

def trailing : Function := .native { group := "a_b", name := "c" } fun _ => .done (.string "second")

theorem function_calls_reach_iff_clashing :
    let kernel : Kernel := ⟨[leading, trailing], [], none, none⟩
    ({ functions := [leading, trailing] } : Builder).build = .ok kernel ∧
    Runs (kernel.host kernel.invoke) "a_b_c" (.function trailing) ∧
    Runs (kernel.host kernel.invoke) "helperMissing" .missing := by
  intro kernel
  have built : ({ functions := [leading, trailing] } : Builder).build = .ok kernel := rfl
  obtain ⟨-, each, -, builtin⟩ := function_calls_reach_iff built kernel.invoke
  exact ⟨built, (each [leading] trailing [] rfl).2.mpr (by simp), builtin "helperMissing" .missing rfl⟩

theorem read?_clashing :
    read? "\x7b\x7ba_b_c\x7d\x7d" = some [.output ⟨.path (.steps "a_b_c" [.key "a_b_c"]), [], []⟩] := by
  rw [read?_of_expand "\x7b\x7ba_b_c\x7d\x7d" (by decide +kernel)]
  simp only [String.reduceToList]
  rfl

/-- Both functions are accepted, and a call by the name of the first one runs the second one. -/
theorem leading_not_reached :
    let kernel : Kernel := ⟨[leading, trailing], [], none, none⟩
    let host := kernel.host (kernel.invokeWithin 1)
    ({ functions := [leading, trailing] } : Builder).build = .ok kernel ∧ leading.ref ≠ trailing.ref ∧
    IsIdentifier leading.helperName.toList ∧ leading.helperName = trailing.helperName ∧
    ¬Runs host leading.helperName (.function leading) ∧
    (kernel.callWithin 1 leading.ref {}).1.map Result.value = .ok (.string "first") ∧
    (Template.render host "\x7b\x7ba_b_c\x7d\x7d" {}).1 = .ok "second" := by
  intro kernel host
  refine ⟨rfl, by decide, ⟨by decide, List.all_eq_true.mp (by decide)⟩, by decide, ?_, rfl, ?_⟩
  · intro runs
    have same : trailing = leading := Helper.function.inj (Option.some.inj runs.named)
    exact absurd (congrArg Function.ref same) (by decide)
  · rw [render_of_read? read?_clashing, renderTree_apply]
    rfl

end Kernel

end PromptKernel
