import PromptKernel.Proofs.WiderBlocks

/-! Templates rendered twice, the second time with one variable more. A template that spares the variable
comes to the same text, with all the templates that it includes. -/

namespace PromptKernel.Template

variable {twins : Twins} {watch : Watch} {scope : Scope}

/-! Included templates. -/

/-- The same value, or all variables together. -/
def JsonTwin (rules : Rules) (value item other : Json) : Prop :=
  other = item ∨ ∃ fields more, item = .object fields ∧ other = .object more ∧ Fields.Widens rules.name value fields more

/-- The block for a value with named arguments on top. -/
def namedBlock (value : Json) (named : Fields Json) : Block where
  base := .value (if named.isEmpty then value else .object (Fields.merge (fieldsOf value) named))
  names := named.map fun (name, value) => (name, .value value)

theorem namedBlock_own (watch : Watch) (value : Json) (named : Fields Json) :
    OwnBlock twins.toRules watch (namedBlock value named) (namedBlock value named) := by
  refine .value fun entry member => ?_
  obtain ⟨field, -, rfl⟩ := List.mem_map.mp member
  nofun

theorem namedBlock_shared {value other : Json} (twin : JsonTwin twins.toRules twins.value value other)
    {named : Fields Json} (apart : twins.name ∉ named.keys) :
    SharedBlock twins.toRules twins.value watch (namedBlock value named) (namedBlock other named) := by
  rcases twin with rfl | ⟨fields, more, rfl, rfl, widens⟩
  · exact .own (namedBlock_own watch _ named)
  · have valued : ∀ entry ∈ (namedBlock .null named).names, entry.2 ≠ .item := by
      intro entry member
      obtain ⟨field, -, rfl⟩ := List.mem_map.mp member
      nofun
    unfold namedBlock at valued ⊢
    cases named.isEmpty with
    | true => exact .wider widens valued
    | false => exact .wider (widens.merge apart) valued

theorem inclusionBlock_eq (setting : Setting) (call : Call) : inclusionBlock setting call = (do
    let found ← match call.params with
      | found :: _ => pure found
      | [] => resolve setting call.blocks (.steps "" [])
    return namedBlock found.json (call.hash.mapValues Found.json)) := rfl

/-- What two lookups come to, as far as it can be seen. -/
inductive ShownTwin (rules : Rules) (agree : Json → Json → Prop) : Except Error Found → Except Error Found → Prop
  | error (same : rules.guarded = false → outcome = .error error) : ShownTwin rules agree (.error error) outcome
  | ok (agreed : agree found.json other.json) : ShownTwin rules agree (.ok found) (.ok other)

theorem resolve_meets {agree : Json → Json → Prop} {path : Path} {blocks others : List Block}
    {moment otherMoment : Moment} (alike : Alike twins watch moment otherMoment)
    (looked : ShownTwin twins.toRules agree (lookup (.object moment.state.bindings) blocks path)
      (lookup (.object otherMoment.state.bindings) others path)) :
    (resolve twins.setting blocks path).Meets twins watch (fun _ found other => agree found.json other.json)
      (resolve twins.otherSetting others path) moment otherMoment := by
  unfold Render.Meets
  rw [resolve_apply, resolve_apply, alike.coherent, alike.otherCoherent]
  generalize lookup (.object moment.state.bindings) blocks path = outcome at looked ⊢
  generalize lookup (.object otherMoment.state.bindings) others path = otherOutcome at looked ⊢
  cases looked with
  | error same =>
    refine .error fun unguarded => ?_
    rw [same unguarded]
    exact ⟨rfl, alike.states, alike.kept⟩
  | ok agreed =>
    refine .ok ?_ alike
    rwa [Progress.seen_json, Progress.seen_json]

theorem LookupTwin.shown {anchor : Option String} {bindings : Fields Json} {outcome other : Except Error Found}
    {agree : Json → Json → Prop} (agreed : ∀ item, agree item item)
    (twin : LookupTwin twins.toRules watch anchor bindings outcome other) :
    ShownTwin twins.toRules agree outcome other := by
  cases twin with
  | error same => exact .error same
  | ok shown _ _ => exact .ok (by rw [shown]; exact agreed _)

section
variable {blocks others : List Block} (placed : Placed twins watch scope blocks others)
include placed

/-- What the block around an element is about. -/
theorem context_meets {moment otherMoment : Moment} (alike : Alike twins watch moment otherMoment) :
    (resolve twins.setting blocks (.steps "" [])).Meets twins watch
      (fun _ found other => JsonTwin twins.toRules twins.value found.json other.json ∧
        (0 < scope.depth → other.json = found.json))
      (resolve twins.otherSetting others (.steps "" [])) moment otherMoment := by
  refine @resolve_meets twins watch (fun item other => JsonTwin twins.toRules twins.value item other ∧
    (0 < scope.depth → other = item)) _ _ _ _ _ alike ?_
  have same (item : Json) : JsonTwin twins.toRules twins.value item item ∧ (0 < scope.depth → item = item) :=
    ⟨.inl rfl, fun _ => rfl⟩
  have about (blocks : List Block) : target blocks [] = ((blocks[0]? <|> blocks.head?).getD {}).target [] := rfl
  have widens := alike.states.bindings
  rw [lookup_steps, lookup_steps, about, about]
  have inside : 0 < scope.depth → OwnBlock twins.toRules watch ((blocks[0]? <|> blocks.head?).getD {})
      ((others[0]? <|> others.head?).getD {}) := placed.around.ownBlock
  have shared := placed.around.block 0
  generalize (blocks[0]? <|> blocks.head?).getD {} = block at inside shared ⊢
  generalize (others[0]? <|> others.head?).getD {} = other at inside shared ⊢
  have owned (own : OwnBlock twins.toRules watch block other) :
      ShownTwin twins.toRules (fun item other => JsonTwin twins.toRules twins.value item other ∧
        (0 < scope.depth → other = item)) ((block.target []).found _) ((other.target []).found _) :=
    LookupTwin.shown same (Target.Twin.found widens alike.kept (own.target none []))
  by_cases deep : 0 < scope.depth
  · exact owned (inside deep)
  · cases shared with
    | own own => exact owned own
    | root => exact .ok ⟨.inr ⟨_, _, rfl, rfl, widens⟩, fun deep' => absurd deep' deep⟩
    | wider more _ => exact .ok ⟨.inr ⟨_, _, rfl, rfl, more⟩, fun deep' => absurd deep' deep⟩

theorem inclusionBlock_twin {e : Expression} (apart : twins.name ∉ e.hash.map Prod.fst) {call other : Call}
    (called : Called twins.guarded e blocks others call other) :
    (inclusionBlock twins.setting call).Twin twins watch
      (fun block other => SharedBlock twins.toRules twins.value watch block other ∧
        (¬ (e.params = [] ∧ scope.depth = 0) → OwnBlock twins.toRules watch block other))
      (inclusionBlock twins.otherSetting other) := by
  have keys : twins.name ∉ (call.hash.mapValues Found.json).keys := by
    rw [← called.twin.hash.keys] at apart
    unfold Fields.keys Fields.mapValues
    rwa [List.map_map]
  rw [inclusionBlock_eq, inclusionBlock_eq, called.blocks.1, called.blocks.2, called.twin.hash.json]
  have all := called.twin.params
  generalize e.params = params at all ⊢
  generalize call.params = values at all ⊢
  generalize other.params = otherValues at all ⊢
  cases all with
  | nil =>
    intro moment otherMoment alike
    refine .bind (context_meets placed alike) fun found otherFound later otherLater both alike => ?_
    refine .pure alike ⟨namedBlock_shared both.1 keys, fun inner => ?_⟩
    rw [both.2 (Nat.pos_of_ne_zero fun outermost => inner ⟨rfl, outermost⟩)]
    exact namedBlock_own watch _ _
  | cons first _ =>
    simp only [pure_bind, first.value.json]
    exact .pure ⟨.own (namedBlock_own watch _ _), fun _ => namedBlock_own watch _ _⟩

/-- The blocks around an included template. -/
theorem Placed.including {params : List Argument} {block other : Block}
    (shared : SharedBlock twins.toRules twins.value watch block other)
    (own : ¬ (params = [] ∧ scope.depth = 0) → OwnBlock twins.toRules watch block other) :
    Placed twins watch (scope.including params) (block :: blocks) (other :: others) := by
  unfold Scope.including
  split
  next outermost =>
    refine ⟨placed.fits, .cons shared placed.around.shared, fun i inside => ?_⟩
    rw [outermost.2] at inside
    cases inside
  next inner => exact ⟨placed.fits, placed.around.cons_own (own inner)⟩

theorem Placed.narrow {outer : Scope} (fits : outer.Fits scope) : Placed twins watch outer blocks others :=
  ⟨fun name free => placed.fits name (fits.free name free), placed.around.mono fits.depth⟩

end

/-! Elements. -/

/-- Renderers of included templates that spare the variable. -/
def Includes (twins : Twins) (included other : Renderer) : Prop :=
  ∀ ⦃watch scope elements blocks others⦄, ElementsSpare twins.toRules elements scope →
    Placed twins watch scope blocks others → (included elements blocks).Twin twins watch Same (other elements others)

theorem findPartial_apply (name : String) (progress : Progress) (state : State) :
    findPartial name progress state = (.ok (if name = "@partial-block" then progress.partials.body.map .body
      else (progress.partials.named.get? name).map .template, progress), state) := by
  unfold findPartial
  rw [Render.bind_apply]
  change (if name = "@partial-block" then _ else _ : Render (Option Partial)) progress state = _
  split <;> rfl

/-- A template is found with its scope. -/
theorem findPartial_twin (name : String) : (findPartial name).Twin twins watch
    (fun found other => other = found ∧ ∀ elements, found = some (.template elements) →
      ElementsSpare twins.toRules elements (twins.partialScope name)) (findPartial name) := by
  intro moment otherMoment alike
  unfold Render.Meets
  rw [findPartial_apply, findPartial_apply, alike.partials]
  refine .ok ⟨rfl, fun elements found => ?_⟩ alike
  split at found
  · obtain ⟨text, -, shape⟩ := Option.map_eq_some_iff.mp found
    cases shape
  · obtain ⟨known, kept, shape⟩ := Option.map_eq_some_iff.mp found
    cases shape
    exact alike.spared name elements kept

theorem Render.Twin.addPartial {name : String} {elements : List Element}
    (spare : ElementsSpare twins.toRules elements (twins.partialScope name)) (text : String) :
    Render.Twin twins watch Same
      (do
        modify fun progress => { progress with
          partials.named := progress.partials.named.insert name elements }
        return text : Render String)
      (do
        modify fun progress => { progress with
          partials.named := progress.partials.named.insert name elements }
        return text : Render String) := by
  intro moment otherMoment alike
  refine .ok rfl { alike with partials := ?_, spared := ?_ }
  · dsimp only
    rw [alike.partials]
  · intro other body found
    dsimp only at found
    rw [Fields.get?_insert] at found
    split at found
    next same =>
      cases found
      exact same ▸ spare
    next => exact alike.spared other body found

theorem Render.Twin.setBody (text : String) :
    Render.Twin twins watch Same
      (do
        modify fun progress => { progress with partials.body := some text }
        return some text : Render (Option String))
      (do
        modify fun progress => { progress with partials.body := some text }
        return some text : Render (Option String)) := by
  intro moment otherMoment alike
  refine .ok rfl { alike with partials := ?_, spared := alike.spared }
  dsimp only
  rw [alike.partials]

variable {included otherIncluded : Renderer}

mutual

theorem renderElement_twin {watch : Watch} {scope : Scope} {blocks others : List Block}
    (includes : Includes twins included otherIncluded) (placed : Placed twins watch scope blocks others)
    (element : Element) (spares : element.Spares twins.toRules scope) :
    (renderElement twins.setting included element blocks).Twin twins watch Same
      (renderElement twins.otherSetting otherIncluded element others) :=
  match element with
  | .text s => by
    rw [renderElement, renderElement]
    exact .emit s
  | .output e => by
    rw [renderElement, renderElement]
    exact writeOutput_twin placed spares
  | .block e names ownLine body inverse => by
    rw [Element.Spares] at spares
    obtain ⟨callSpares, bodySpares, inverseSpares⟩ := spares
    rw [renderElement, renderElement]
    intro moment otherMoment alike
    refine .bind (blockCall_meets placed callSpares.toCallSpares alike) fun call other later otherLater both alike => ?_
    obtain ⟨called, opened⟩ := both
    dsimp only
    rw [congrArg (Helper.ofName? twins.otherSetting.host.functions) called.twin.name]
    rw [twins.setting_host, twins.otherSetting_host]
    split
    next helper found =>
      have helperSpares := callSpares.helper call.name called.mayCall
      rw [show Helper.ofName? twins.functions call.name = some helper from found] at helperSpares
      -- A helper that opens its first argument watches the value while it writes the body.
      obtain ⟨opening, plain⟩ := bodySpares call.name helper called.mayCall found
      refine .part _ alike fun margin => ?_
      refine writeBlock_meets called (Helper.registered_of_ofName? found) helperSpares placed.fits
        (alike.setMargin margin) (fun opens => opened (opening opens).1)
        (fun opens => renderElements_twin includes placed body (plain opens))
        (fun opens closer holding block otherBlock own => ?_)
        (renderInverse_twin includes placed inverse inverseSpares)
      have inner : Placed twins closer (scope.within twins.guarded e.params) (block :: blocks) (otherBlock :: others) :=
        ⟨holding.fits, (placed.around.tighten holding.more holding.fewer).cons_own own⟩
      exact renderElements_twin includes inner body (opening opens).2
    next =>
      rw [called.twin.name]
      exact Render.Twin.fail _ _ _ _ alike
  | .decorator e body => by
    rw [Element.Spares] at spares
    obtain ⟨callSpares, bodySpares⟩ := spares
    rw [renderElement, renderElement]
    refine .bind (call_twin placed callSpares) fun call other called => ?_
    rw [called.twin.name, called.twin.params.json]
    split
    · split
      next name rest elements values =>
        obtain ⟨argument, first, maybe⟩ := called.twin.params.maybe values
        have spare := bodySpares argument first name maybe
        rw [BodySpares] at spare
        exact .addPartial spare ""
      · exact .fail _ _
      · exact .fail _ _
    · exact .fail _ _
  | .inclusion e indent ownLine body => by
    rw [Element.Spares] at spares
    obtain ⟨callSpares, apart, bodySpares, fits⟩ := spares
    rw [renderElement, renderElement]
    refine .bind (call_twin placed callSpares) fun call other called => ?_
    rw [called.twin.name]
    refine .bind (findPartial_twin call.name) fun found _ known => ?_
    obtain ⟨rfl, spare⟩ := known
    refine .bind (inclusionBlock_twin placed apart called) fun block otherBlock both => ?_
    have inner := placed.including both.1 both.2
    refine .part _ (.locally ?_)
    refine .bind (renderBody_twin includes inner body bodySpares) fun text _ same => ?_
    rw [same]
    split
    · exact includes (spare _ rfl) (inner.narrow (fits call.name called.mayCall))
    · exact .pure rfl
    · exact .pure rfl
    · exact .fail _ _
termination_by structural element

theorem renderElements_twin {watch : Watch} {scope : Scope} {blocks others : List Block}
    (includes : Includes twins included otherIncluded) (placed : Placed twins watch scope blocks others)
    (elements : List Element) (spare : ElementsSpare twins.toRules elements scope) :
    (renderElements twins.setting included elements blocks).Twin twins watch Same
      (renderElements twins.otherSetting otherIncluded elements others) :=
  match elements with
  | [] => by
    rw [renderElements, renderElements]
    exact .pure rfl
  | element :: elements => by
    rw [ElementsSpare] at spare
    rw [renderElements, renderElements]
    refine .bind (renderElement_twin includes placed element spare.1) fun text _ same => ?_
    refine .bind (renderElements_twin includes placed elements spare.2) fun rest _ equal => ?_
    exact .pure (by rw [Same, same, equal])
termination_by structural elements

theorem renderInverse_twin {watch : Watch} {scope : Scope} {blocks others : List Block}
    (includes : Includes twins included otherIncluded) (placed : Placed twins watch scope blocks others)
    (inverse : Option (List Element)) (spare : BodySpares twins.toRules inverse scope) :
    (Call.part (renderInverse twins.setting included inverse) blocks).Twin twins watch Same
      (Call.part (renderInverse twins.otherSetting otherIncluded inverse) others) :=
  match inverse with
  | none => by
    rw [renderInverse, renderInverse]
    exact .pure rfl
  | some body => by
    rw [BodySpares] at spare
    rw [renderInverse, renderInverse]
    exact renderElements_twin includes placed body spare
termination_by structural inverse

theorem renderBody_twin {watch : Watch} {scope : Scope} {blocks others : List Block}
    (includes : Includes twins included otherIncluded) (placed : Placed twins watch scope blocks others)
    (body : Option (List Element)) (spare : BodySpares twins.toRules body scope) :
    (renderBody twins.setting included body blocks).Twin twins watch Same
      (renderBody twins.otherSetting otherIncluded body others) :=
  match body with
  | none => by
    rw [renderBody, renderBody]
    exact .pure rfl
  | some body => by
    rw [BodySpares] at spare
    rw [renderBody, renderBody]
    refine .bind (renderElements_twin includes placed body spare) fun text _ same => ?_
    rw [same]
    exact .setBody text
termination_by structural body

end

/-- However deep templates include each other. -/
theorem renderWithin_twin (depth : Nat) :
    Includes twins (renderWithin twins.setting depth) (renderWithin twins.otherSetting depth) := by
  induction depth with
  | zero =>
    intro watch scope elements blocks others _ _
    exact .fail _ _
  | succ depth ih =>
    intro watch scope elements blocks others spare placed
    exact renderElements_twin ih placed elements spare

end PromptKernel.Template
