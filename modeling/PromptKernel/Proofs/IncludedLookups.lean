import PromptKernel.Proofs.FieldUpdates
import PromptKernel.Proofs.LookupCoherence

/-! Names inside of included templates. An inclusion takes down what the variables are when it is called, with its
named arguments on top, and everything inside of it is read from there. So a name means its argument or else the
variable as it was at the call, which is the variable as it is unless something inside changes it. -/

namespace PromptKernel.Template

/-! Inclusions on the way. -/

/-- Rendering the elements from one moment on, the rendering comes to an element at another. Elements inside of
each, with and included templates are left out, since their names mean other things. -/
inductive Arrives (setting : Setting) (depth : Nat) (blocks : List Block) :
    List Element → Moment → Element → Moment → Prop
  | here : Arrives setting depth blocks (element :: elements) moment element moment
  | body (called : (call setting blocks e).Returns before used middle)
    (found : Helper.ofName? setting.host.functions used.name = some helper)
    (plain : helper ≠ .each ∧ helper ≠ .within)
    (inside : Arrives setting depth blocks body (middle.enter ownLine) element moment) :
    Arrives setting depth blocks (.block e names ownLine body inverse :: elements) before element moment
  | inverse (called : (call setting blocks e).Returns before used middle)
    (found : Helper.ofName? setting.host.functions used.name = some helper)
    (plain : helper ≠ .each ∧ helper ≠ .within)
    (inside : Arrives setting depth blocks otherwise (middle.enter ownLine) element moment) :
    Arrives setting depth blocks (.block e names ownLine body (some otherwise) :: elements) before element moment
  | next (rendered : (renderElement setting (renderWithin setting depth) first blocks).Returns before text middle)
    (inside : Arrives setting depth blocks elements middle element moment) :
    Arrives setting depth blocks (first :: elements) before element moment

theorem Arrives.coherent {setting : Setting} {depth : Nat} {blocks : List Block} {elements : List Element}
    {before moment : Moment} {element : Element} (arrives : Arrives setting depth blocks elements before element moment)
    (start : before.Coherent setting) : moment.Coherent setting := by
  have legal := keepsCoherent_legal setting setting.host
  induction arrives with
  | here => exact start
  | body called _ _ _ ih | inverse called _ _ _ ih =>
    have reached := Moment.Coherent.of_returns (Follows.call legal blocks _) called start
    exact ih reached
  | next rendered _ ih => exact ih (.of_renderElement rendered start)

/-- A rendering of the text comes to an element outside of each, with and included templates. -/
def RenderArrives (host : Host) (source : String) (start : State) (element : Element) (moment : Moment) : Prop :=
  ∃ elements, read? source = some elements ∧
    Arrives ⟨host, .object start.bindings⟩ (depthLimit - 1) [{}] elements ⟨{}, start⟩ element moment

theorem Render.Returns.exists_bind {render : Render α} {next : α → Render β} {before after : Moment} {value : β}
    (returns : (render >>= next).Returns before value after) :
    ∃ first middle, render.Returns before first middle ∧ (next first).Returns middle value after := by
  unfold Render.Returns at returns
  rw [Render.bind_apply] at returns
  rcases done : render before.progress before.state with ⟨error | ⟨first, later⟩, middle⟩
  · rw [done] at returns
    cases returns
  · rw [done] at returns
    exact ⟨first, ⟨later, middle⟩, done, returns⟩

theorem Render.Returns.eq_of_pure {before after : Moment} {value other : α}
    (returns : (pure value : Render α).Returns before other after) : value = other :=
  (Prod.mk.inj (Except.ok.inj (Prod.mk.inj returns).1)).1

/-- A call is worked out where it stands. -/
theorem call_returns {setting : Setting} {blocks : List Block} {e : Expression} {before after : Moment} {used : Call}
    (called : (call setting blocks e).Returns before used after) :
    used.blocks = blocks ∧ (e.params = [] → used.params = []) := by
  obtain ⟨name, _, -, rest⟩ := called.exists_bind
  obtain ⟨params, _, evaluated, rest⟩ := rest.exists_bind
  obtain ⟨hash, _, -, rest⟩ := rest.exists_bind
  obtain rfl := rest.eq_of_pure
  refine ⟨rfl, ?_⟩
  intro alone
  rw [alone] at evaluated
  exact evaluated.eq_of_pure.symm

/-! The block of an inclusion. -/

/-- The variables with arguments on top, which are names of their own as well. -/
def boundBlock (bindings : Fields Json) (arguments : Fields Found) : Block :=
  { base := .value (.object (Fields.merge bindings (arguments.mapValues Found.json)))
    names := (arguments.mapValues Found.json).map fun (name, value) => (name, .value value) }

theorem resolve_context {setting : Setting} {moment : Moment} (coherent : moment.Coherent setting) :
    ∃ found, (resolve setting [{}] (.steps "" [])).Returns moment found moment ∧
      found.json = .object moment.state.bindings := by
  unfold Render.Returns
  rw [resolve_apply, coherent]
  exact ⟨_, rfl, Progress.seen_json _ _⟩

theorem inclusionBlock_returns {setting : Setting} {moment : Moment} (coherent : moment.Coherent setting)
    {call : Call} (alone : call.params = []) (outside : call.blocks = [{}]) :
    (inclusionBlock setting call).Returns moment (boundBlock moment.state.bindings call.hash) moment := by
  obtain ⟨found, returned, context⟩ := resolve_context coherent
  have value : (if (call.hash.mapValues Found.json).isEmpty then found.json
      else .object (Fields.merge (fieldsOf found.json) (call.hash.mapValues Found.json))) =
      .object (Fields.merge moment.state.bindings (call.hash.mapValues Found.json)) := by
    rw [context]
    split
    next empty =>
      rw [List.isEmpty_iff.mp empty]
      rfl
    next => rfl
  unfold Render.Returns inclusionBlock
  simp only [alone, outside]
  rw [Render.bind_apply, show resolve setting [{}] (.steps "" []) moment.progress moment.state = _ from returned]
  simp only [value]
  rfl

/-- What a name stands for in an inclusion, wherever and whenever it is looked up. -/
theorem lookup_boundBlock (context : Json) (bindings : Fields Json) (arguments : Fields Found) (name : String) :
    lookup context [boundBlock bindings arguments, {}] (.ofName name) =
      .ok (match ((arguments.get? name).map Found.json).or (bindings.get? name) with
        | some value => .value value
        | none => .missing) := by
  have named : (boundBlock bindings arguments).names.lookup name =
      (arguments.get? name).map fun found => .value found.json := by
    change ((arguments.mapValues Found.json).mapValues Named.value).lookup name = _
    rw [← Fields.get?_eq_lookup, Fields.get?_mapValues, Fields.get?_mapValues, Option.map_map]
    rfl
  have given : named? [boundBlock bindings arguments, {}] name =
      (arguments.get? name).map fun found => ([], .value found.json) := by
    rw [named?, List.findSome?_cons, named]
    cases arguments.get? name <;> rfl
  have under : splitUps [.key name] = (0, [.key name]) := rfl
  rw [lookup.eq_def]
  simp only [Path.ofName, target, under, given]
  cases there : arguments.get? name with
  | some found => rfl
  | none =>
    have missing : (arguments.mapValues Found.json).get? name = none := by
      rw [Fields.get?_mapValues, there, Option.map_none]
    change (follow (.object _) [name]).map _ = _
    simp only [follow, child?, Fields.get?_merge_of_missing missing]
    cases bindings.get? name <;> rfl

/-- What a name stands for in an inclusion with these arguments, called with these variables. -/
def bound? (bindings : Fields Json) (arguments : Fields Found) (name : String) : Option Json :=
  ((arguments.get? name).map Found.json).or (bindings.get? name)

theorem evaluate_boundBlock (setting : Setting) (bindings : Fields Json) (arguments : Fields Found) (name : String)
    (moment : Moment) :
    ∃ found, (evaluate setting [boundBlock bindings arguments, {}] (.path (.ofName name))).Returns moment found moment ∧
      found.json = (bound? bindings arguments name).getD .null := by
  unfold Render.Returns
  rw [evaluate_path_apply, lookup_boundBlock]
  refine ⟨_, rfl, ?_⟩
  rw [Progress.seen_json]
  unfold bound?
  cases ((arguments.get? name).map Found.json).or (bindings.get? name) <;> rfl

/-! Texts with names in them. -/

/-- A part of a template without helpers. -/
inductive Plain
  | text (s : String)
  | name (key : String)

def Plain.element : Plain → Element
  | text s => .text s
  | name key => .output ⟨.path (.ofName key), [], []⟩

/-- Shows what the names stand for. A name without a meaning is nothing, unless it could only be a function. -/
def Plain.write (host : Host) (value? : String → Option Json) : Plain → Render String
  | text s => Render.emit s
  | name key =>
    match value? key with
    | some value => Render.emit (shown value)
    | none => do
      if (← get).renewed.isNone && Helper.isInGroup host.functions key then Render.fail (.unknownHelper key)
      else return ""

def writePlain (host : Host) (value? : String → Option Json) : List Plain → Render String
  | [] => return ""
  | part :: parts => do
    let text ← part.write host value?
    return text ++ (← writePlain host value? parts)

theorem writeOutput_boundBlock {setting : Setting} {name : String}
    (unnamed : Helper.ofName? setting.host.functions name = none) (bindings : Fields Json) (arguments : Fields Found) :
    writeOutput setting [boundBlock bindings arguments, {}] ⟨.path (.ofName name), [], []⟩ =
      Plain.write setting.host (bound? bindings arguments) (.name name) := by
  funext progress state
  have unheld : Helper.ofName? setting.host.functions (Path.ofName name).written = none := unnamed
  rw [writeOutput_path unheld, lookup_boundBlock, Plain.write]
  unfold bound?
  cases ((arguments.get? name).map Found.json).or (bindings.get? name) with
  | some value => rfl
  | none =>
    change _ = (if progress.renewed.isNone && Helper.isInGroup setting.host.functions name then
      Render.fail (.unknownHelper name) else pure "" : Render String) progress state
    rw [show (Path.ofName name).written = name from rfl]
    cases progress.renewed <;> cases Helper.isInGroup setting.host.functions name <;> rfl

theorem renderElements_plain {setting : Setting} (included : Renderer) {parts : List Plain}
    (unnamed : ∀ name, .name name ∈ parts → Helper.ofName? setting.host.functions name = none)
    (bindings : Fields Json) (arguments : Fields Found) :
    renderElements setting included (parts.map Plain.element) [boundBlock bindings arguments, {}] =
      writePlain setting.host (bound? bindings arguments) parts := by
  induction parts with
  | nil => rfl
  | cons part parts ih =>
    have first : renderElement setting included part.element [boundBlock bindings arguments, {}] =
        part.write setting.host (bound? bindings arguments) := by
      cases part with
      | text s => rfl
      | name name => exact writeOutput_boundBlock (unnamed name List.mem_cons_self) bindings arguments
    rw [List.map_cons, renderElements, writePlain, first, ih fun name member => unnamed name (List.mem_cons_of_mem _ member)]

theorem findPartial_named {name : String} (named : name ≠ "@partial-block") {moment : Moment} {elements : List Element}
    (known : moment.progress.partials.named.get? name = some elements) :
    (findPartial name).Returns moment (some (.template elements)) moment := by
  unfold Render.Returns findPartial
  rw [Render.bind_apply]
  change (if name = "@partial-block" then pure (moment.progress.partials.body.map Partial.body)
    else pure ((moment.progress.partials.named.get? name).map Partial.template) : Render (Option Partial))
      moment.progress moment.state = _
  rw [if_neg named, known]
  rfl

/-- A template of texts and names that is called from the text itself, after whatever was done before, with any
named arguments. Each of the names stands for its argument, or else for what its variable holds at the call, and what
they show is what is written. -/
theorem inclusion_reads_variables {host : Host} {source : String} {start : State} {e : Expression} {indent : List Char}
    {ownLine : Bool} {block : Option (List Element)} {moment after : Moment} {used : Call} {parts : List Plain}
    (arrives : RenderArrives host source start (.inclusion e indent ownLine block) moment) (alone : e.params = [])
    (called : (call ⟨host, .object start.bindings⟩ [{}] e).Returns moment used after)
    (named : used.name ≠ "@partial-block")
    (known : after.progress.partials.named.get? used.name = some (parts.map Plain.element))
    (unnamed : ∀ name, .name name ∈ parts → Helper.ofName? host.functions name = none) :
    let setting : Setting := ⟨host, .object start.bindings⟩
    let included : Renderer := renderWithin setting (depthLimit - 1)
    ∃ inside : Block, (inclusionBlock setting used).Returns after inside after ∧
      (∀ name (later : Moment), ∃ found,
        (evaluate setting [inside, {}] (.path (.ofName name))).Returns later found later ∧
          found.json = ((used.hash.get? name).map Found.json).getD (held after.state name)) ∧
      renderElement setting included (.inclusion e indent ownLine block) [{}] moment.progress moment.state =
        Render.part (·.enterIndented indent ownLine) (Render.locally do
          let _ ← renderBody setting included block [inside, {}]
          writePlain host (bound? after.state.bindings used.hash) parts) after.progress after.state := by
  intro setting included
  obtain ⟨elements, -, arrives⟩ := arrives
  have coherent : after.Coherent setting :=
    .of_returns (Follows.call (keepsCoherent_legal setting setting.host) _ _) called (arrives.coherent rfl)
  obtain ⟨outside, params⟩ := call_returns called
  -- The context is taken down before anything inside can change it.
  have opened := inclusionBlock_returns coherent (params alone) outside
  refine ⟨boundBlock after.state.bindings used.hash, opened, ?_, ?_⟩
  · intro name later
    obtain ⟨found, returned, same⟩ := evaluate_boundBlock setting after.state.bindings used.hash name later
    refine ⟨found, returned, ?_⟩
    rw [same, bound?, held, Option.getD_or]
  · have template (blocks : List Block) :
        included (parts.map Plain.element) blocks =
          renderElements setting (renderWithin setting (depthLimit - 2)) (parts.map Plain.element) blocks := rfl
    rw [renderElement, Render.bind_apply, show call setting [{}] e moment.progress moment.state = _ from called]
    dsimp only
    rw [Render.bind_apply, show findPartial used.name after.progress after.state = _ from findPartial_named named known]
    dsimp only
    rw [Render.bind_apply, show inclusionBlock setting used after.progress after.state = _ from opened]
    change Render.part _ (Render.locally (renderBody setting included block _ >>= fun _ =>
      included (parts.map Plain.element) _)) after.progress after.state = _
    rw [template, renderElements_plain _ unnamed]

/-- A template that shows two names, and a call of it after one of them was assigned. -/
def refreshed : String :=
  "\x7b\x7b#*inline \"p\"\x7d\x7d\x7b\x7bx\x7d\x7d\x7b\x7bk\x7d\x7d\x7b\x7b/inline\x7d\x7d" ++
    "\x7b\x7bset \"x\" 2\x7d\x7d\x7b\x7b> p k=1\x7d\x7d"

theorem read?_refreshed : read? refreshed = some [
    .decorator ⟨.name "inline", [.literal (.string "p")], []⟩
      (some [.output ⟨.path (.ofName "x"), [], []⟩, .output ⟨.path (.ofName "k"), [], []⟩]),
    .output ⟨.name "set", [.literal (.string "x"), .literal (.integer 2)], []⟩,
    .inclusion ⟨.name "p", [], [("k", .literal (.integer 1))]⟩ [] false none] := by
  rw [read?_of_expand refreshed (by decide +kernel)]
  unfold refreshed
  simp only [String.reduceAppend, String.reduceToList]
  rfl

theorem inclusion_reads_variables_refreshed :
    let kernel : Kernel := ⟨[], [], none, none⟩
    let host := kernel.host (kernel.invokeWithin 1)
    let start : State := { bindings := [("x", .integer 1)] }
    let call : Element := .inclusion ⟨.name "p", [], [("k", .literal (.integer 1))]⟩ [] false none
    ∃ moment : Moment, moment.state.bindings = [("x", .integer 2)] ∧ RenderArrives host refreshed start call moment ∧
      (renderElement ⟨host, .object start.bindings⟩ (renderWithin ⟨host, .object start.bindings⟩ (depthLimit - 1)) call [{}]
        moment.progress moment.state).1.map Prod.fst = .ok "21" := by
  intro kernel host start element
  let setting : Setting := ⟨host, .object start.bindings⟩
  let body : List Element := [.output ⟨.path (.ofName "x"), [], []⟩, .output ⟨.path (.ofName "k"), [], []⟩]
  let defined : Moment := ⟨{ partials := { named := [("p", body)] } }, start⟩
  let bindings : Fields Json := [("x", .integer 2)]
  let assigned : Moment :=
    ⟨{ renewed := some (.object bindings), partials := { named := [("p", body)] } }, { bindings }⟩
  have arrives : RenderArrives host refreshed start element assigned := by
    refine ⟨_, read?_refreshed, ?_⟩
    refine .next (show Render.Returns _ _ "" defined from rfl) ?_
    refine .next (show Render.Returns _ _ "" assigned from rfl) ?_
    exact .here
  have called : (call setting [{}] ⟨.name "p", [], [("k", .literal (.integer 1))]⟩).Returns assigned
      ⟨"p", [], [("k", .value (.integer 1))], [], [{}], none, none⟩ assigned := rfl
  have unnamed : ∀ name, Plain.name name ∈ [Plain.name "x", .name "k"] →
      Helper.ofName? host.functions name = none := by
    simp only [List.mem_cons, List.not_mem_nil, or_false, Plain.name.injEq]
    rintro name (rfl | rfl) <;> rfl
  have known : assigned.progress.partials.named.get? "p" = some ([Plain.name "x", .name "k"].map Plain.element) := rfl
  obtain ⟨inside, -, -, written⟩ := inclusion_reads_variables arrives rfl called (by decide) known unnamed
  refine ⟨assigned, rfl, arrives, ?_⟩
  rw [written]
  rfl

/-- A call inside of another included template, after an assignment in this template. -/
def nested : String :=
  "\x7b\x7b#*inline \"p\"\x7d\x7d\x7b\x7bx\x7d\x7d\x7b\x7b/inline\x7d\x7d" ++
    "\x7b\x7b#*inline \"q\"\x7d\x7d\x7b\x7bset \"x\" 2\x7d\x7d\x7b\x7b> p\x7d\x7d\x7b\x7b/inline\x7d\x7d" ++
    "\x7b\x7b> q\x7d\x7d"

theorem read?_nested : read? nested = some [
    .decorator ⟨.name "inline", [.literal (.string "p")], []⟩ (some [.output ⟨.path (.ofName "x"), [], []⟩]),
    .decorator ⟨.name "inline", [.literal (.string "q")], []⟩ (some [
      .output ⟨.name "set", [.literal (.string "x"), .literal (.integer 2)], []⟩,
      .inclusion ⟨.name "p", [], []⟩ [] false none]),
    .inclusion ⟨.name "q", [], []⟩ [] false none] := by
  rw [read?_of_expand nested (by decide +kernel)]
  unfold nested
  simp only [String.reduceAppend, String.reduceToList]
  rfl

/-- Inside of an included template names are read from what the variables were when it was called, and so they are in
the templates that it includes, whatever was assigned in between. -/
theorem nested_inclusion_behind :
    let kernel : Kernel := ⟨[], [], none, none⟩
    render (kernel.host (kernel.invokeWithin 1)) nested { bindings := [("x", .integer 1)] } =
      (.ok "1", { bindings := [("x", .integer 2)] }) := by
  intro kernel
  rw [render_of_read? read?_nested, renderTree_apply]
  rfl

end PromptKernel.Template
