import PromptKernel.Proofs.LeadingTags
import PromptKernel.Proofs.WiderRuns

/-! Bindings that a template has nothing to do with. A variable that neither the template nor anything called
by it uses may be set in front of it, and nothing else comes of that. -/

namespace PromptKernel

namespace Template

theorem evaluateAll_literals (setting : Setting) (blocks : List Block) (values : List Json) :
    evaluateAll setting blocks (values.map .literal) = pure (values.map .value) := by
  induction values with
  | nil => rfl
  | cons value values ih =>
    rw [List.map_cons, evaluateAll, evaluate, pure_bind, ih, pure_bind]
    rfl

theorem writeOutput_literals {setting : Setting} {written : String} {helper : Helper}
    (found : Helper.ofName? setting.host.functions written = some helper) (blocks : List Block) (first : Json)
    (others : List Json) : writeOutput setting blocks ⟨.name written, (first :: others).map .literal, []⟩ =
      Render.part (·.enter false) (helper.write setting.host
        { name := written, params := (first :: others).map .value, hash := [], blocks }) := by
  have given : Expression.isBare ⟨.name written, (first :: others).map .literal, []⟩ = false := rfl
  unfold writeOutput writeCall call
  rw [given, if_pos (by rfl), evaluateAll_literals]
  simp only [nameOf, evaluateHash, pure_bind, found, Option.getD_some]

/-- A part without text leaves the margin as it is. -/
theorem Margin.leave_enter (margin : Margin) : margin.leave (margin.enter false) = margin := by
  obtain ⟨indent, lineEnded, used, due⟩ := margin
  rfl

section
variable {name : String} (setting : Setting) (blocks : List Block) (progress : Progress) (state : State)

theorem writeOutput_get_eq : writeOutput setting blocks (reading name) =
    Render.part (·.enter false) (Helper.write setting.host .get
      { name := "get", params := [.value (.string name)], hash := [], blocks }) :=
  writeOutput_literals (Helper.ofName?_of_builtin? rfl _) blocks (.string name) []

theorem writeOutput_setOne_eq : writeOutput setting blocks (settingOne name) =
    Render.part (·.enter false) (Helper.write setting.host .set
      { name := "set", params := [.value (.string name), .value (.integer 1)], hash := [], blocks }) :=
  writeOutput_literals (Helper.ofName?_of_builtin? rfl _) blocks (.string name) [.integer 1]

theorem variableName_literal (helper : String) (others : List Found) :
    Helper.variableName { name := helper, params := .value (.string name) :: others, hash := [], blocks } =
      if name.isEmpty then Render.fail (.invalidHelperArguments helper "a variable name is required")
      else pure name := rfl

/-- A variable without a value shows as nothing. -/
theorem writeOutput_get (named : name.isEmpty = false) (unbound : state.bindings.get? name = none) :
    writeOutput setting blocks (reading name) progress state = (.ok ("", progress), state) := by
  have read (progress : Progress) : Helper.write setting.host .get
      { name := "get", params := [.value (.string name)], hash := [], blocks } progress state =
        (.ok ("", progress), state) := by
    unfold Helper.write Helper.variableValue
    rw [variableName_literal, named, if_neg Bool.false_ne_true, pure_bind]
    change (Except.ok (((state.bindings.get? name).getD .null).inline, progress), state) = _
    rw [unbound]
    rfl
  rw [writeOutput_get_eq, Render.part_apply, read]
  dsimp only
  rw [Margin.leave_enter]

theorem writeOutput_get_empty (empty : name.isEmpty = true) : ∃ error,
    writeOutput setting blocks (reading name) progress state = (.error error, state) := by
  refine ⟨.invalidHelperArguments "get" "a variable name is required", ?_⟩
  have refused (progress : Progress) : Helper.write setting.host .get
      { name := "get", params := [.value (.string name)], hash := [], blocks } progress state =
        (.error (.invalidHelperArguments "get" "a variable name is required"), state) := by
    unfold Helper.write Helper.variableValue
    rw [variableName_literal, empty, if_pos rfl]
    rfl
  rw [writeOutput_get_eq, Render.part_apply, refused]

theorem writeOutput_setOne (named : name.isEmpty = false) :
    let bindings := state.bindings.insert name (.integer 1)
    writeOutput setting blocks (settingOne name) progress state =
      (.ok ("", { progress with renewed := some (.object bindings) }), { state with bindings }) := by
  intro bindings
  have assigned (progress : Progress) : Helper.write setting.host .set
      { name := "set", params := [.value (.string name), .value (.integer 1)], hash := [], blocks } progress state =
        (.ok ("", { progress with renewed := some (.object bindings) }), { state with bindings }) := by
    unfold Helper.write Helper.assign
    rw [variableName_literal, named, if_neg Bool.false_ne_true, pure_bind]
    rfl
  rw [writeOutput_setOne_eq, Render.part_apply, assigned]
  dsimp only
  rw [Margin.leave_enter]

end

/-- What stands behind the tag that reads a variable is read in the same way behind the one that sets it. -/
theorem read?_get_set {name : String} (plain : IsPlainName name) {source : String} {first : Element}
    {elements : List Element}
    (read : read? ("\x7b\x7bget \"" ++ name ++ "\"\x7d\x7d" ++ source) = some (first :: elements)) :
    first = .output (reading name) ∧
      read? ("\x7b\x7bset \"" ++ name ++ "\" 1\x7d\x7d" ++ source) =
        some (.output (settingOne name) :: elements) := by
  rw [← LeadingTag.get_text name plain] at read
  obtain ⟨rest, same, readSet⟩ := read?_leading (LeadingTag.get_closesAlike_setOne name plain) read
  obtain ⟨rfl, rfl⟩ := List.cons.inj same
  rw [LeadingTag.setOne_text name plain] at readSet
  exact ⟨rfl, readSet⟩

theorem renderWithin_output (setting : Setting) (e : Expression) (elements : List Element) :
    renderWithin setting depthLimit (.output e :: elements) [{}] = (do
      let text ← writeOutput setting [{}] e
      return text ++ (← renderElements setting (renderWithin setting (depthLimit - 1)) elements [{}])) := rfl

section
variable {host : Host} {e : Expression} {state : State}

/-- A first element that writes nothing leaves all to the rest. -/
theorem renderTree_of_first {middle : State} {progress : Progress}
    (first : writeOutput ⟨host, .object state.bindings⟩ [{}] e {} state = (.ok ("", progress), middle))
    (elements : List Element) : renderTree host (.output e :: elements) state =
      ((renderElements ⟨host, .object state.bindings⟩ (renderWithin ⟨host, .object state.bindings⟩ (depthLimit - 1))
          elements [{}] progress middle).1.map Prod.fst,
        (renderElements ⟨host, .object state.bindings⟩ (renderWithin ⟨host, .object state.bindings⟩ (depthLimit - 1))
          elements [{}] progress middle).2) := by
  rw [renderTree_apply, renderWithin_output, Render.bind_apply, first]
  simp only [String.empty_append, bind_pure]

theorem renderTree_of_failed {error : Error}
    (failed : writeOutput ⟨host, .object state.bindings⟩ [{}] e {} state = (.error error, state))
    (elements : List Element) : renderTree host (.output e :: elements) state = (.error error, state) := by
  rw [renderTree_apply, renderWithin_output, Render.bind_apply, failed]
  rfl

end

end Template

namespace Kernel
open Template

/-- Nothing but the names that may be assigned is watched, and all may be. -/
def unwatched : Watch where
  free _ := True
  kept _ := True
  stable _ _ := trivial

variable {kernel : Kernel} {name : String} {assigns : Function → String → Prop} {partialScope : String → Scope}

/-- The elements of a template come to the same with the variable set before. -/
theorem renderElements_set (spares : kernel.Spares name assigns) {state : State}
    (unbound : state.bindings.get? name = none) (proper : (Json.object state.bindings).Proper) (value : Json)
    {elements : List Element}
    (spare : ElementsSpare ⟨kernel.functions, name, assigns, true, partialScope⟩ elements ⟨0, fun _ => True⟩)
    (depth : Nat) {text : String} {progress : Progress} {after : State} :
    let setting : Setting := ⟨kernel.host kernel.invoke, .object state.bindings⟩
    let bindings := state.bindings.insert name value
    renderElements setting (renderWithin setting depth) elements [{}] {} state = (.ok (text, progress), after) →
      ∃ otherProgress other, renderElements setting (renderWithin setting depth) elements [{}]
          { renewed := some (.object bindings) } { state with bindings } = (.ok (text, otherProgress), other) ∧
        after.Widens name value other := by
  intro setting bindings ran
  let twins : Twins := {
    functions := kernel.functions
    name, assigns, guarded := true, partialScope, value
    invoke := kernel.invoke
    context := .object state.bindings
    otherContext := .object state.bindings
    proper := fun _ => proper
    calls := fun function member arguments =>
      dispatch_ignores (spares.binds function member)
        (invokeWithin_ignores spares Kernel.depthLimit function member) arguments }
  -- Only the second rendering has set a variable so far, and therefore renewed its context.
  have alike : Alike twins unwatched ⟨{}, state⟩ ⟨{ renewed := some (.object bindings) }, { state with bindings }⟩ :=
    { states := ⟨.of_insert unbound value, rfl, rfl, rfl⟩
      coherent := rfl
      otherCoherent := rfl
      kept := trivial
      partials := rfl
      margin := rfl
      renewed := rfl
      spared := nofun }
  have placed : Placed twins unwatched ⟨0, fun _ => True⟩ [{}] [{}] :=
    ⟨fun _ _ => trivial, .cons .root .nil, nofun⟩
  have met : Meets twins unwatched (fun _ => Same)
      (renderElements setting (renderWithin setting depth) elements [{}] {} state)
      (renderElements setting (renderWithin setting depth) elements [{}]
        { renewed := some (.object bindings) } { state with bindings }) :=
    renderElements_twin (renderWithin_twin depth) placed elements spare _ _ alike
  rw [ran] at met
  generalize renderElements setting (renderWithin setting depth) elements [{}]
    { renewed := some (.object bindings) } { state with bindings } = outcome at met ⊢
  cases met with
  | ok same alike => exact ⟨_, _, by rw [same], alike.states⟩

/-- A rendering does not depend on a variable that has nothing to do with it, and leaves it as it is. -/
theorem unrelated_binding_ignored (plain : IsPlainName name) (spares : kernel.Spares name assigns) {state : State}
    (unbound : state.bindings.get? name = none) (proper : (Json.object state.bindings).Proper) {source : String}
    {first : Element} {elements : List Element}
    (read : read? ("\x7b\x7bget \"" ++ name ++ "\"\x7d\x7d" ++ source) = some (first :: elements))
    (spare : ElementsSpare ⟨kernel.functions, name, assigns, true, partialScope⟩ elements ⟨0, fun _ => True⟩)
    {text : String} {after : State}
    (rendered : kernel.render ("\x7b\x7bget \"" ++ name ++ "\"\x7d\x7d" ++ source) state = (.ok text, after)) :
    ∃ final, kernel.render ("\x7b\x7bset \"" ++ name ++ "\" 1\x7d\x7d" ++ source) state = (.ok text, final) ∧
      final.completions = after.completions ∧ final.arrived = after.arrived ∧ final.cancelled = after.cancelled ∧
      ∀ other, final.bindings.get? other = (after.bindings.insert name (.integer 1)).get? other := by
  obtain ⟨rfl, readSet⟩ := read?_get_set plain read
  rw [Kernel.render, render_of_read? read] at rendered
  rw [Kernel.render, render_of_read? readSet]
  cases named : name.isEmpty with
  | true =>
    obtain ⟨error, failed⟩ := writeOutput_get_empty ⟨kernel.host kernel.invoke, .object state.bindings⟩ [{}] {}
      state named
    rw [renderTree_of_failed failed] at rendered
    cases rendered
  | false =>
    rw [renderTree_of_first (writeOutput_get _ _ _ _ named unbound)] at rendered
    rw [renderTree_of_first (writeOutput_setOne _ _ _ _ named)]
    rcases ran : renderElements ⟨kernel.host kernel.invoke, .object state.bindings⟩ _ elements [{}] {} state with
      ⟨error | ⟨shown, progress⟩, ended⟩
    · rw [ran] at rendered
      cases (Prod.mk.inj rendered).1
    · rw [ran] at rendered
      cases rendered
      obtain ⟨otherProgress, final, again, widens⟩ := renderElements_set spares unbound proper (.integer 1) spare _ ran
      refine ⟨final, ?_, widens.completions, widens.arrived, widens.cancelled, widens.bindings.get?_eq_insert⟩
      rw [again]
      rfl

def settling : Function :=
  .native { group := "T", name := "d" } fun _ => .ask (.set "y" (.string "deep")) fun _ => .done .null

theorem read?_settling : read? ("\x7b\x7bget \"" ++ "z" ++ "\"\x7d\x7d" ++
      ("\x7b\x7b#each xs as |x|\x7d\x7d\x7b\x7bx\x7d\x7d\x7b\x7bset \"x\" 0\x7d\x7d\x7b\x7bT_d\x7d\x7d" ++
        "\x7b\x7b/each\x7d\x7d\x7b\x7by\x7d\x7d")) = some [
    .output ⟨.name "get", [.literal (.string "z")], []⟩,
    .block ⟨.name "each", [.path (.ofName "xs")], []⟩ ["x"] false [
      .output ⟨.path (.ofName "x"), [], []⟩,
      .output ⟨.name "set", [.literal (.string "x"), .literal (.integer 0)], []⟩,
      .output ⟨.path (.ofName "T_d"), [], []⟩] none,
    .output ⟨.path (.ofName "y"), [], []⟩] := by
  rw [read?_of_expand
    ("\x7b\x7bget \"z\"\x7d\x7d\x7b\x7b#each xs as |x|\x7d\x7d\x7b\x7bx\x7d\x7d\x7b\x7bset \"x\" 0\x7d\x7d" ++
      "\x7b\x7bT_d\x7d\x7d\x7b\x7b/each\x7d\x7d\x7b\x7by\x7d\x7d")
    (by decide +kernel)]
  simp only [String.reduceAppend, String.reduceToList]
  rfl

theorem mayCall_name {name text : String} {params : List Argument} {hash : List (String × Argument)}
    (calls : Expression.MayCall ⟨.name text, params, hash⟩ name) : name = text := calls text rfl

theorem mayCall_path {name : String} {path : Path} {params : List Argument} {hash : List (String × Argument)}
    (calls : Expression.MayCall ⟨.path path, params, hash⟩ name) : name = path.written := calls path.written rfl

def settlingRules : Rules := ⟨[settling], "z", fun _ other => other = "y", true, fun _ => ⟨0, fun _ => False⟩⟩

theorem spares_settling_path (scope : Scope) {name : String} (apart : "z" ≠ name) :
    (Path.ofName name).Spares settlingRules scope :=
  ⟨by simpa [keysOf, settlingRules] using apart, nofun⟩

/-- What the template assigns is not what its block goes through. -/
theorem spare_settling : ElementsSpare settlingRules [
    .block ⟨.name "each", [.path (.ofName "xs")], []⟩ ["x"] false [
      .output ⟨.path (.ofName "x"), [], []⟩,
      .output ⟨.name "set", [.literal (.string "x"), .literal (.integer 0)], []⟩,
      .output ⟨.path (.ofName "T_d"), [], []⟩] none,
    .output ⟨.path (.ofName "y"), [], []⟩] ⟨0, fun _ => True⟩ := by
  have plain (scope : Scope) {name : String} (apart : "z" ≠ name) (unnamed : Helper.ofName? [settling] name = none) :
      Element.Spares settlingRules (.output ⟨.path (.ofName name), [], []⟩) scope := by
    refine ⟨⟨spares_settling_path scope apart, trivial, trivial⟩, fun written calls => ?_⟩
    rw [mayCall_path calls, show Helper.ofName? settlingRules.functions (Path.ofName name).written = none from unnamed]
    trivial
  have assignable {name : String} (apart : name ≠ "z") (other : name ≠ "xs") :
      Assignable "z" (Scope.within ⟨0, fun _ => True⟩ true [.path (.ofName "xs")]).free name := by
    refine ⟨apart, trivial, fun _ same => other ?_⟩
    exact (Option.some.inj same).symm
  have assigns : Element.Spares settlingRules
      (.output ⟨.name "set", [.literal (.string "x"), .literal (.integer 0)], []⟩)
      (Scope.within ⟨0, fun _ => True⟩ true [.path (.ofName "xs")]) := by
    refine ⟨⟨trivial, ⟨trivial, trivial, trivial⟩, trivial⟩, fun written calls => ?_⟩
    rw [mayCall_name calls]
    rintro argument ⟨⟩ name rfl
    exact assignable (by decide) (by decide)
  have deepens : Element.Spares settlingRules (.output ⟨.path (.ofName "T_d"), [], []⟩)
      (Scope.within ⟨0, fun _ => True⟩ true [.path (.ofName "xs")]) := by
    refine ⟨⟨spares_settling_path _ (by decide), trivial, trivial⟩, fun written calls => ?_⟩
    rw [mayCall_path calls]
    rintro name rfl
    exact (assignable (by decide) (by decide)).free
  refine ⟨⟨⟨⟨trivial, ⟨spares_settling_path _ (by decide), trivial⟩, trivial⟩, fun written calls => ?_⟩,
    fun written helper calls found => ?_, trivial⟩, plain _ (by decide) rfl, trivial⟩
  · rw [mayCall_name calls]
    trivial
  · rw [mayCall_name calls] at found
    cases (show some Helper.each = some helper from found)
    exact ⟨fun _ => ⟨⟨trivial, trivial⟩, plain _ (by decide) rfl, assigns, deepens, trivial⟩,
      fun closed => absurd (.inl rfl) closed⟩

theorem exists_of_toOption {outcome : Except Error α × State} {value : α} (shown : outcome.1.toOption = some value) :
    ∃ after, outcome = (.ok value, after) := by
  obtain ⟨_ | shown', after⟩ := outcome
  · cases shown
  · cases shown
    exact ⟨after, rfl⟩

/-- The items of the list are shown as they are, whatever else is set meanwhile. -/
theorem unrelated_binding_ignored_settling :
    let kernel : Kernel := ⟨[settling], [], none, none⟩
    let state : State := { bindings := [("xs", .array [.integer 1, .integer 2])] }
    let source := "\x7b\x7b#each xs as |x|\x7d\x7d\x7b\x7bx\x7d\x7d\x7b\x7bset \"x\" 0\x7d\x7d\x7b\x7bT_d\x7d\x7d" ++
      "\x7b\x7b/each\x7d\x7d\x7b\x7by\x7d\x7d"
    (kernel.render ("\x7b\x7bget \"" ++ "z" ++ "\"\x7d\x7d" ++ source) state).1 = .ok "12deep" ∧
    (kernel.render ("\x7b\x7bset \"" ++ "z" ++ "\" 1\x7d\x7d" ++ source) state).1 = .ok "12deep" := by
  intro kernel state source
  have shown : (kernel.render ("\x7b\x7bget \"" ++ "z" ++ "\"\x7d\x7d" ++ source) state).1.toOption = some "12deep" := by
    unfold Kernel.render
    rw [render_of_read? read?_settling]
    decide +kernel
  obtain ⟨after, rendered⟩ := exists_of_toOption shown
  have plain : IsPlainName "z" := ⟨by decide, by decide⟩
  have spares : kernel.Spares "z" fun _ other => other = "y" := by
    refine ⟨?_, ?_⟩ <;> intro function member <;> obtain rfl := List.mem_singleton.mp member
    · exact nofun
    · exact fun _ => ⟨⟨by decide, rfl⟩, fun _ => trivial⟩
  have proper : (Json.object state.bindings).Proper := by
    refine .object (by decide) fun entry member => ?_
    obtain rfl := List.mem_singleton.mp member
    refine .array fun item member => ?_
    simp only [List.mem_cons, List.not_mem_nil, or_false] at member
    rcases member with rfl | rfl <;> exact .number
  obtain ⟨final, same, -⟩ := unrelated_binding_ignored plain spares rfl proper read?_settling spare_settling rendered
  exact ⟨by rw [rendered], by rw [same]⟩

theorem read?_computed : read? ("\x7b\x7bget \"" ++ "z" ++ "\"\x7d\x7d" ++ "\x7b\x7bget x\x7d\x7d") = some [
    .output ⟨.name "get", [.literal (.string "z")], []⟩, .output ⟨.name "get", [.path (.ofName "x")], []⟩] := by
  rw [read?_of_expand "\x7b\x7bget \"z\"\x7d\x7d\x7b\x7bget x\x7d\x7d" (by decide +kernel)]
  simp only [String.reduceToList]
  rfl

theorem read?_overwriting : read? ("\x7b\x7bget \"" ++ "z" ++ "\"\x7d\x7d" ++
      "\x7b\x7b#each xs\x7d\x7d\x7b\x7bthis\x7d\x7d\x7b\x7bset \"xs\" 0\x7d\x7d\x7b\x7b/each\x7d\x7d") = some [
    .output ⟨.name "get", [.literal (.string "z")], []⟩,
    .block ⟨.name "each", [.path (.ofName "xs")], []⟩ [] false [
      .output ⟨.path (.steps "this" []), [], []⟩,
      .output ⟨.name "set", [.literal (.string "xs"), .literal (.integer 0)], []⟩] none] := by
  rw [read?_of_expand
    "\x7b\x7bget \"z\"\x7d\x7d\x7b\x7b#each xs\x7d\x7d\x7b\x7bthis\x7d\x7d\x7b\x7bset \"xs\" 0\x7d\x7d\x7b\x7b/each\x7d\x7d"
    (by decide +kernel)]
  simp only [String.reduceToList]
  rfl

/-- A name that is computed may turn out to be that of the variable. And of a list that is overwritten while a
block goes through it, the second item is only there if a variable was set before. -/
theorem unrelated_binding_noticed :
    let kernel : Kernel := ⟨[], [], none, none⟩
    let named : State := { bindings := [("x", .string "z")] }
    let listed : State := { bindings := [("xs", .array [.integer 1, .integer 2])] }
    let getting := "\x7b\x7bget \"" ++ "z" ++ "\"\x7d\x7d"
    let setting := "\x7b\x7bset \"" ++ "z" ++ "\" 1\x7d\x7d"
    let computed := "\x7b\x7bget x\x7d\x7d"
    let overwriting := "\x7b\x7b#each xs\x7d\x7d\x7b\x7bthis\x7d\x7d\x7b\x7bset \"xs\" 0\x7d\x7d\x7b\x7b/each\x7d\x7d"
    (named.bindings.get? "z" = none ∧ (kernel.render (getting ++ computed) named).1 = .ok "" ∧
      (kernel.render (setting ++ computed) named).1 = .ok "1") ∧
    (listed.bindings.get? "z" = none ∧ (kernel.render (getting ++ overwriting) listed).1 = .ok "1" ∧
      (kernel.render (setting ++ overwriting) listed).1 = .ok "12") := by
  intro kernel named listed getting setting computed overwriting
  have plain : IsPlainName "z" := ⟨by decide, by decide⟩
  have renders {state : State} {source text : String} {elements : List Element} (read : read? source = some elements)
      (shown : (renderTree (kernel.host kernel.invoke) elements state).1.toOption = some text) :
      (kernel.render source state).1 = .ok text := by
    obtain ⟨after, same⟩ := exists_of_toOption shown
    rw [Kernel.render, render_of_read? read, same]
  refine ⟨⟨rfl, renders read?_computed (by decide +kernel), ?_⟩, rfl, renders read?_overwriting (by decide +kernel), ?_⟩
  · exact renders (read?_get_set plain read?_computed).2 (by decide +kernel)
  · exact renders (read?_get_set plain read?_overwriting).2 (by decide +kernel)

end Kernel

end PromptKernel
