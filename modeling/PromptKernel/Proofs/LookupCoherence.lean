import PromptKernel.Proofs.HelperNames

/-! Lookups in step with the variables. A rendering reads names from a context that is as old as the
last helper that renewed it, while helpers and the functions under them change the variables behind
it. Every step that changes variables and goes on also renews the context, so no lookup is ever
behind the variables. -/

namespace PromptKernel.Template

structure Moment where
  progress : Progress
  state : State

namespace Moment

/-- Names are read from what the variables are at the moment. -/
def Coherent (moment : Moment) (setting : Setting) : Prop :=
  moment.progress.renewed.getD setting.context = .object moment.state.bindings

def enter (moment : Moment) (ownLine : Bool) : Moment :=
  { moment with progress.margin := moment.progress.margin.enter ownLine }

end Moment

/-- From one moment on, the rendering gives the value and ends at another moment. -/
def Render.Returns (render : Render α) (before : Moment) (value : α) (after : Moment) : Prop :=
  render before.progress before.state = (.ok (value, after.progress), after.state)

/-- Whatever goes on from a coherent moment goes on at a coherent one. -/
def keepsCoherent (setting : Setting) : Conduct := fun progress state outcome after =>
  ∀ later, outcome = .ok later → Moment.Coherent ⟨progress, state⟩ setting → Moment.Coherent ⟨later, after⟩ setting

theorem keepsCoherent_legal (setting : Setting) (host : Host) : (keepsCoherent setting).Legal host where
  stay := by
    rintro progress state _ ⟨⟩ coherent
    exact coherent
  trans := by
    intro progress state later middle outcome after begun rest final same coherent
    exact rest final same (begun later rfl coherent)
  note := by
    rintro progress later state kept _ ⟨⟩ coherent
    simpa only [Moment.Coherent, kept] using coherent
  fail := by
    rintro progress state error plain later ⟨⟩
  assign := by
    intro progress state name value bindings later same coherent
    cases same
    rfl
  refuse := by
    rintro progress state function arguments bindings member bound cancelled later ⟨⟩
  invoke := by
    intro progress state function arguments bindings member bound running result later same coherent
    rcases done : result with ⟨error | value, after⟩
    · rw [done] at same
      cases same
    · rw [done] at same
      cases same
      rfl

theorem Moment.Coherent.of_returns {setting : Setting} {render : Render α} {before after : Moment} {value : α}
    (follows : Follows (keepsCoherent setting) render) (returns : render.Returns before value after)
    (coherent : before.Coherent setting) : after.Coherent setting := by
  have kept := follows before.progress before.state
  rw [show render before.progress before.state = _ from returns] at kept
  exact kept after.progress rfl coherent

theorem Moment.Coherent.of_renderElement {setting : Setting} {depth : Nat} {element : Element} {blocks : List Block}
    {before after : Moment} {text : String}
    (rendered : (renderElement setting (renderWithin setting depth) element blocks).Returns before text after)
    (coherent : before.Coherent setting) : after.Coherent setting := by
  have legal := keepsCoherent_legal setting setting.host
  have within (elements : List Element) (blocks : List Block) :
      Follows _ (renderWithin setting depth elements blocks) := Follows.renderWithin legal depth elements blocks
  exact .of_returns (Follows.renderElement legal within element blocks) rendered coherent

/-- A part of a template. -/
inductive Part
  | argument (argument : Argument)
  | arguments (arguments : List Argument)
  | named (arguments : List (String × Argument))
  /-- The name and the arguments of a call. -/
  | call (e : Expression)
  | elements (elements : List Element)

/-- Working on a part from one moment on, the rendering comes to look up a path at another. All lookups
count except those inside of each, with and included templates, where names mean other things. -/
inductive LooksUp (setting : Setting) (depth : Nat) (blocks : List Block) : Part → Moment → Path → Moment → Prop
  | path : LooksUp setting depth blocks (.argument (.path path)) moment path moment
  | inCall (inside : LooksUp setting depth blocks (.arguments params) before path moment) :
      LooksUp setting depth blocks (.argument (.call name params fields)) before path moment
  | inCallNamed (evaluated : (evaluateAll setting blocks params).Returns before values middle)
      (inside : LooksUp setting depth blocks (.named fields) middle path moment) :
      LooksUp setting depth blocks (.argument (.call name params fields)) before path moment
  | first (inside : LooksUp setting depth blocks (.argument argument) before path moment) :
      LooksUp setting depth blocks (.arguments (argument :: arguments)) before path moment
  | later (evaluated : (evaluate setting blocks argument).Returns before value middle)
      (inside : LooksUp setting depth blocks (.arguments arguments) middle path moment) :
      LooksUp setting depth blocks (.arguments (argument :: arguments)) before path moment
  | firstNamed (inside : LooksUp setting depth blocks (.argument argument) before path moment) :
      LooksUp setting depth blocks (.named ((key, argument) :: arguments)) before path moment
  | laterNamed (evaluated : (evaluate setting blocks argument).Returns before value middle)
      (inside : LooksUp setting depth blocks (.named arguments) middle path moment) :
      LooksUp setting depth blocks (.named ((key, argument) :: arguments)) before path moment
  | head (inside : LooksUp setting depth blocks (.argument (.call name nested fields)) before path moment) :
      LooksUp setting depth blocks (.call ⟨.call name nested fields, params, more⟩) before path moment
  | params (named : (nameOf setting blocks e.head).Returns before name middle)
      (inside : LooksUp setting depth blocks (.arguments e.params) middle path moment) :
      LooksUp setting depth blocks (.call e) before path moment
  | hash (named : (nameOf setting blocks e.head).Returns before name middle)
      (evaluated : (evaluateAll setting blocks e.params).Returns middle values further)
      (inside : LooksUp setting depth blocks (.named e.hash) further path moment) :
      LooksUp setting depth blocks (.call e) before path moment
  | output (inside : LooksUp setting depth blocks (.call e) before path moment) :
      LooksUp setting depth blocks (.elements (.output e :: elements)) before path moment
  /-- A head alone is looked up once it turns out not to be a helper. -/
  | value (bare : e.isBare) (named : (nameOf setting blocks e.head).Returns before name middle)
      (unnamed : Helper.ofName? setting.host.functions name = none)
      (inside : LooksUp setting depth blocks (.argument e.head) middle path moment) :
      LooksUp setting depth blocks (.elements (.output e :: elements)) before path moment
  | block (inside : LooksUp setting depth blocks (.call e) before path moment) :
      LooksUp setting depth blocks (.elements (.block e names ownLine body inverse :: elements)) before path moment
  | body (called : (call setting blocks e).Returns before used middle)
      (found : Helper.ofName? setting.host.functions used.name = some helper)
      (plain : helper ≠ .each ∧ helper ≠ .within)
      (inside : LooksUp setting depth blocks (.elements body) (middle.enter ownLine) path moment) :
      LooksUp setting depth blocks (.elements (.block e names ownLine body inverse :: elements)) before path moment
  | inverse (called : (call setting blocks e).Returns before used middle)
      (found : Helper.ofName? setting.host.functions used.name = some helper)
      (plain : helper ≠ .each ∧ helper ≠ .within)
      (inside : LooksUp setting depth blocks (.elements otherwise) (middle.enter ownLine) path moment) :
      LooksUp setting depth blocks (.elements (.block e names ownLine body (some otherwise) :: elements))
        before path moment
  | decorator (inside : LooksUp setting depth blocks (.call e) before path moment) :
      LooksUp setting depth blocks (.elements (.decorator e body :: elements)) before path moment
  | next (rendered : (renderElement setting (renderWithin setting depth) element blocks).Returns before text middle)
      (inside : LooksUp setting depth blocks (.elements elements) middle path moment) :
      LooksUp setting depth blocks (.elements (element :: elements)) before path moment

section
variable {setting : Setting} {depth : Nat} {blocks : List Block} {part : Part}
  {before moment : Moment} {path : Path}

theorem LooksUp.coherent (looks : LooksUp setting depth blocks part before path moment)
    (start : before.Coherent setting) : moment.Coherent setting := by
  have legal := keepsCoherent_legal setting setting.host
  induction looks with
  | path => exact start
  | inCall _ ih | first _ ih | firstNamed _ ih | head _ ih | output _ ih | block _ ih | decorator _ ih =>
    exact ih start
  | inCallNamed evaluated _ ih => exact ih (.of_returns (Follows.evaluateAll legal blocks _) evaluated start)
  | later evaluated _ ih | laterNamed evaluated _ ih =>
    exact ih (.of_returns (Follows.evaluateArgument legal blocks _) evaluated start)
  | params named _ ih | value _ named _ _ ih => exact ih (.of_returns (Follows.nameOf legal blocks _) named start)
  | hash named evaluated _ ih =>
    exact ih (.of_returns (Follows.evaluateAll legal blocks _) evaluated
      (.of_returns (Follows.nameOf legal blocks _) named start))
  | body called _ _ _ ih | inverse called _ _ _ ih =>
    -- Margins have no part in what names mean.
    have reached := Moment.Coherent.of_returns (Follows.call legal blocks _) called start
    exact ih reached
  | next rendered _ ih => exact ih (.of_renderElement rendered start)

end

/-- A name alone. -/
def Path.ofName (name : String) : Path := .steps name [.key name]

theorem lookup_ofName (bindings : Fields Json) (name : String) :
    lookup (.object bindings) [{}] (.ofName name) = .ok (match bindings.get? name with
      | some value => .place [name] value
      | none => .missing) := by
  change (follow (.object bindings) [name]).map _ = _
  simp only [follow, child?]
  cases bindings.get? name <;> rfl

theorem evaluate_path_apply (setting : Setting) (blocks : List Block) (path : Path) (progress : Progress)
    (state : State) : evaluate setting blocks (.path path) progress state =
      ((lookup (progress.renewed.getD setting.context) blocks path).map fun found => (progress.seen found, progress),
        state) := by
  rw [evaluate, resolve_apply]

/-- A path alone that no helper has the name of is looked up. -/
theorem writeOutput_unnamed {setting : Setting} {path : Path}
    (unnamed : Helper.ofName? setting.host.functions path.written = none) (blocks : List Block) :
    writeOutput setting blocks ⟨.path path, [], []⟩ = (do
      match ← evaluate setting blocks (.path path) with
      | .missing => Helper.writeMissing setting.host (← call setting blocks ⟨.path path, [], []⟩)
      | found => Render.emit (shown found.json)) := by
  have bare : Expression.isBare ⟨.path path, [], []⟩ = true := rfl
  unfold writeOutput nameOf
  simp only [bare, Bool.not_true, Bool.false_eq_true, if_false, pure_bind]
  split
  next given => cases unnamed.symm.trans given
  next => rfl

/-- What it leads to is shown. If it leads nowhere it may have been meant for a function, which a renewed
context does not tell. -/
theorem writeOutput_path {setting : Setting} {path : Path}
    (unnamed : Helper.ofName? setting.host.functions path.written = none) (blocks : List Block) (progress : Progress)
    (state : State) : writeOutput setting blocks ⟨.path path, [], []⟩ progress state =
      match lookup (progress.renewed.getD setting.context) blocks path with
      | .error error => (.error error, state)
      | .ok .missing =>
        if progress.renewed = none ∧ Helper.isInGroup setting.host.functions path.written then
          (.error (.unknownHelper path.written), state)
        else (.ok ("", progress), state)
      | .ok found => Render.emit (shown found.json) progress state := by
  rw [writeOutput_unnamed unnamed, Render.bind_apply, evaluate_path_apply]
  unfold Progress.seen
  rcases lookup (progress.renewed.getD setting.context) blocks path with error | found
  · rfl
  · cases renewed : progress.renewed with
    | none =>
      cases found with
      | missing =>
        change (if !Helper.isInGroup setting.host.functions path.written then pure ""
          else Render.fail (.unknownHelper path.written) : Render String) progress state = _
        cases Helper.isInGroup setting.host.functions path.written <;> rfl
      | place place value => rfl
      | value value => rfl
    | some context => cases found <;> rfl

/-- What a variable holds, which is null for an unbound one. -/
def held (state : State) (name : String) : Json := (state.bindings.get? name).getD .null

section
variable {setting : Setting} {moment : Moment} (coherent : moment.Coherent setting) (name : String)
include coherent

theorem evaluate_ofName : ∃ found, (evaluate setting [{}] (.path (.ofName name))).Returns moment found moment ∧
    found.json = held moment.state name := by
  unfold Render.Returns
  rw [evaluate_path_apply, coherent, lookup_ofName]
  refine ⟨_, rfl, ?_⟩
  rw [Progress.seen_json]
  unfold held
  cases moment.state.bindings.get? name <;> rfl

omit coherent in
/-- The helper that reads variables reads them directly. -/
theorem evaluate_get (setting : Setting) (blocks : List Block) (named : name ≠ "") :
    (evaluate setting blocks (.call "get" [.literal (.string name)] [])).Returns moment
      (.value (held moment.state name)) moment := by
  have found : Helper.ofName? setting.host.functions "get" = some .get := Helper.ofName?_of_builtin? rfl _
  have written : Helper.variableName ⟨"get", [.value (.string name)], [], [], blocks, none, none⟩ = pure name :=
    if_neg (by simpa using named)
  have value : Helper.variableValue ⟨"get", [.value (.string name)], [], [], blocks, none, none⟩ =
      (return (← Render.ofRun (Run.lookup name)).getD .null) := by
    unfold Helper.variableValue
    rw [written, pure_bind]
  unfold Render.Returns
  rw [evaluate, found]
  change (do
    let value ← Helper.variableValue ⟨"get", [.value (.string name)], [], [], blocks, none, none⟩
    return Found.value value : Render Found) moment.progress moment.state = _
  rw [value]
  rfl

/-- In text a name shows what its variable holds. Only a name that could be that of a function may not
be left without a meaning. -/
theorem writeOutput_ofName (unnamed : Helper.ofName? setting.host.functions name = none) :
    writeOutput setting [{}] ⟨.path (.ofName name), [], []⟩ moment.progress moment.state =
      if moment.progress.renewed = none ∧ moment.state.bindings.get? name = none ∧
          Helper.isInGroup setting.host.functions name then (.error (.unknownHelper name), moment.state)
      else Render.emit (shown (held moment.state name)) moment.progress moment.state := by
  have unheld : Helper.ofName? setting.host.functions (Path.ofName name).written = none := unnamed
  rw [writeOutput_path unheld, coherent, lookup_ofName]
  unfold held
  cases moment.state.bindings.get? name with
  | some value => exact (if_neg fun absent => nomatch absent.2.1).symm
  | none =>
    simp only [true_and]
    rfl

end

/-- A rendering of the text comes to look up a path outside of each, with and included templates. -/
def RenderLooksUp (host : Host) (source : String) (start : State) (path : Path) (moment : Moment) : Prop :=
  ∃ elements, read? source = some elements ∧
    LooksUp ⟨host, .object start.bindings⟩ (depthLimit - 1) [{}] (.elements elements) ⟨{}, start⟩ path moment

/-- Whenever a rendering looks up a name, it finds what the variable of this name holds at this very
moment, whoever bound it and when. It is what the helper for variables would find, and what is shown
for the name in text. -/
theorem lookup_reads_variable {host : Host} {source : String} {start : State} {name : String} {moment : Moment}
    (looks : RenderLooksUp host source start (.ofName name) moment) :
    let setting : Setting := ⟨host, .object start.bindings⟩
    (∃ found, (evaluate setting [{}] (.path (.ofName name))).Returns moment found moment ∧
      found.json = held moment.state name) ∧
    (name ≠ "" → (evaluate setting [{}] (.call "get" [.literal (.string name)] [])).Returns moment
      (.value (held moment.state name)) moment) ∧
    (Helper.ofName? host.functions name = none →
      writeOutput setting [{}] ⟨.path (.ofName name), [], []⟩ moment.progress moment.state =
        if moment.progress.renewed = none ∧ moment.state.bindings.get? name = none ∧
            Helper.isInGroup host.functions name then (.error (.unknownHelper name), moment.state)
        else Render.emit (shown (held moment.state name)) moment.progress moment.state) := by
  intro setting
  obtain ⟨elements, -, looks⟩ := looks
  have coherent : moment.Coherent setting := looks.coherent rfl
  obtain ⟨found, returned, same⟩ := evaluate_ofName coherent name
  exact ⟨⟨found, returned, same⟩, evaluate_get name setting [{}], writeOutput_ofName coherent name⟩

def deepening : Function :=
  .native { group := "T", name := "d" } fun _ => .ask (.set "z" (.string "deep")) fun _ => .done .null

theorem read?_deepening : read?
    "\x7b\x7bset \"y\" x\x7d\x7d\x7b\x7bT_d\x7d\x7d\x7b\x7b#if y\x7d\x7d\x7b\x7bz\x7d\x7d\x7b\x7b/if\x7d\x7d" = some [
    .output ⟨.name "set", [.literal (.string "y"), .path (.ofName "x")], []⟩,
    .output ⟨.path (.ofName "T_d"), [], []⟩,
    .block ⟨.name "if", [.path (.ofName "y")], []⟩ [] false [.output ⟨.path (.ofName "z"), [], []⟩] none] := by
  rw [read?_of_expand
    "\x7b\x7bset \"y\" x\x7d\x7d\x7b\x7bT_d\x7d\x7d\x7b\x7b#if y\x7d\x7d\x7b\x7bz\x7d\x7d\x7b\x7b/if\x7d\x7d"
    (by decide +kernel)]
  simp only [String.reduceToList]
  rfl

/-- A variable that a function bound is found by the name that the body of a block looks up. -/
theorem lookup_reads_variable_deepening :
    let kernel : Kernel := ⟨[deepening], [], none, none⟩
    let host := kernel.host (kernel.invokeWithin 1)
    let start : State := { bindings := [("x", .string "old")] }
    let bindings : Fields Json := [("x", .string "old"), ("y", .string "old"), ("z", .string "deep")]
    let moment : Moment := ⟨{ renewed := some (.object bindings) }, { bindings }⟩
    RenderLooksUp host "\x7b\x7bset \"y\" x\x7d\x7d\x7b\x7bT_d\x7d\x7d\x7b\x7b#if y\x7d\x7d\x7b\x7bz\x7d\x7d\x7b\x7b/if\x7d\x7d"
      start (.ofName "z") moment ∧
    (∃ found, (evaluate ⟨host, .object start.bindings⟩ [{}] (.path (.ofName "z"))).Returns moment found moment ∧
      found.json = .string "deep") := by
  intro kernel host start bindings moment
  have looks : RenderLooksUp host "\x7b\x7bset \"y\" x\x7d\x7d\x7b\x7bT_d\x7d\x7d\x7b\x7b#if y\x7d\x7d\x7b\x7bz\x7d\x7d\x7b\x7b/if\x7d\x7d"
      start (.ofName "z") moment := by
    refine ⟨_, read?_deepening, ?_⟩
    let assigned : Moment := ⟨{ renewed := some (.object (bindings.take 2)) }, { bindings := bindings.take 2 }⟩
    refine .next (show Render.Returns _ _ "" assigned from rfl) ?_
    refine .next (show Render.Returns _ _ "" moment from rfl) ?_
    have called : (call ⟨host, .object start.bindings⟩ [{}] ⟨.name "if", [.path (.ofName "y")], []⟩).Returns moment
      ⟨"if", [.value (.string "old")], [], [], [{}], none, none⟩ moment := rfl
    refine .body called (show _ = some (.condition true) from rfl) ⟨nofun, nofun⟩ ?_
    exact .value rfl (show Render.Returns _ _ "z" moment from rfl) rfl .path
  exact ⟨looks, (lookup_reads_variable looks).1⟩

end PromptKernel.Template
