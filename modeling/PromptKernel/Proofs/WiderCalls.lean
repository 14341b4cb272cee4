import PromptKernel.Proofs.WiderRenderings

/-! Calls of helpers in two renderings, the second of which has one variable more. Helpers see the same
values, and of the arguments that they take for names they see none but those that the template allows. -/

namespace PromptKernel.Template

/-- The same value. While variables are left alone, the second rendering may not know its place. -/
inductive FoundTwin (guarded : Bool) : Found → Found → Prop
  | same (settled : guarded = true → ∀ path item, found ≠ .place path item) : FoundTwin guarded found found
  | settled (on : guarded = true) : FoundTwin guarded found (.value found.json)

theorem FoundTwin.json {guarded : Bool} {found other : Found} (twin : FoundTwin guarded found other) :
    other.json = found.json := by
  cases twin with
  | same _ => rfl
  | settled _ => rfl

/-- What has no place in the first rendering has none in the second one. -/
theorem FoundTwin.plain {guarded : Bool} {found other : Found} (twin : FoundTwin guarded found other)
    (plain : ∀ path item, found ≠ .place path item) (path : List String) (item : Json) : other ≠ .place path item := by
  cases twin with
  | same _ => exact plain path item
  | settled _ => rintro ⟨⟩

structure ArgumentTwin (guarded : Bool) (argument : Argument) (found other : Found) : Prop where
  value : FoundTwin guarded found other
  maybe : ∀ text, found.json = .string text → argument.MayBe text

/-- The values of arguments that are given by position. -/
inductive AllTwins (guarded : Bool) : List Argument → List Found → List Found → Prop
  | nil : AllTwins guarded [] [] []
  | cons (first : ArgumentTwin guarded argument found other) (rest : AllTwins guarded arguments values others) :
      AllTwins guarded (argument :: arguments) (found :: values) (other :: others)

/-- The values of arguments that are given by name. -/
inductive HashTwins (guarded : Bool) : List (String × Argument) → Fields Found → Fields Found → Prop
  | nil : HashTwins guarded [] [] []
  | cons (first : ArgumentTwin guarded argument found other) (rest : HashTwins guarded arguments values others) :
      HashTwins guarded ((key, argument) :: arguments) ((key, found) :: values) ((key, other) :: others)

/-- An argument that may be missing. -/
inductive GivenTwin (guarded : Bool) : Option Argument → Option Found → Option Found → Prop
  | none : GivenTwin guarded none none none
  | some (twin : ArgumentTwin guarded argument found other) :
      GivenTwin guarded (some argument) (some found) (some other)

namespace GivenTwin
variable {guarded : Bool} {argument : Option Argument} {found other : Option Found}

theorem orElse {argument' : Option Argument} {found' other' : Option Found}
    (first : GivenTwin guarded argument found other) (second : GivenTwin guarded argument' found' other') :
    GivenTwin guarded (argument <|> argument') (found <|> found') (other <|> other') := by
  cases first with
  | none => exact second
  | some twin => exact .some twin

theorem json (twin : GivenTwin guarded argument found other) :
    other.map Found.json = found.map Found.json := by
  cases twin with
  | none => rfl
  | some twin => exact congrArg Option.some twin.value.json

end GivenTwin

namespace AllTwins
variable {guarded : Bool} {arguments : List Argument} {values others : List Found}
  (twins : AllTwins guarded arguments values others)
include twins

theorem json : others.map Found.json = values.map Found.json := by
  induction twins with
  | nil => rfl
  | cons first _ ih => rw [List.map_cons, List.map_cons, first.value.json, ih]

theorem any (holds : Json → Bool) :
    (others.any fun found => holds found.json) = values.any fun found => holds found.json := by
  have same := congrArg (·.any holds) twins.json
  simpa only [List.any_map, Function.comp_def] using same

theorem all (holds : Json → Bool) :
    (others.all fun found => holds found.json) = values.all fun found => holds found.json := by
  have same := congrArg (·.all holds) twins.json
  simpa only [List.all_map, Function.comp_def] using same

theorem isEmpty : values.isEmpty = arguments.isEmpty ∧ others.isEmpty = arguments.isEmpty := by
  cases twins <;> exact ⟨rfl, rfl⟩

theorem maybe {text : String} {rest : List Json} (shown : values.map Found.json = .string text :: rest) :
    ∃ argument ∈ arguments.head?, argument.MayBe text := by
  cases twins with
  | nil => cases shown
  | cons first _ => exact ⟨_, rfl, first.maybe text (List.cons.inj shown).1⟩

theorem getElem? (i : Nat) : GivenTwin guarded arguments[i]? values[i]? others[i]? := by
  induction twins generalizing i with
  | nil => exact .none
  | cons first _ ih =>
    cases i with
    | zero => exact .some first
    | succ i => exact ih i

end AllTwins

namespace HashTwins
variable {guarded : Bool} {arguments : List (String × Argument)} {values others : Fields Found}
  (twins : HashTwins guarded arguments values others)
include twins

theorem json : others.mapValues Found.json = values.mapValues Found.json := by
  induction twins with
  | nil => rfl
  | cons first _ ih =>
    unfold Fields.mapValues at ih ⊢
    rw [List.map_cons, List.map_cons, first.value.json, ih]

theorem keys : values.map Prod.fst = arguments.map Prod.fst := by
  induction twins with
  | nil => rfl
  | cons _ _ ih => rw [List.map_cons, List.map_cons, ih]

theorem isEmpty : values.isEmpty = arguments.isEmpty ∧ others.isEmpty = arguments.isEmpty := by
  cases twins <;> exact ⟨rfl, rfl⟩

theorem get? (name : String) : GivenTwin guarded (Fields.get? arguments name) (values.get? name) (others.get? name) := by
  induction twins with
  | nil => exact .none
  | @cons argument found other arguments values others key first _ ih =>
    simp only [Fields.get?]
    split
    · exact .some first
    · exact ih

end HashTwins

/-- A call with its arguments as the template gives them. -/
structure CallTwin (guarded : Bool) (params : List Argument) (hash : List (String × Argument)) (call other : Call) :
    Prop where
  name : other.name = call.name
  names : other.names = call.names
  params : AllTwins guarded params call.params other.params
  hash : HashTwins guarded hash call.hash other.hash

namespace CallTwin
variable {guarded : Bool} {params : List Argument} {hash : List (String × Argument)} {call other : Call}
  (twin : CallTwin guarded params hash call other)
include twin

theorem given (position : Nat) (key : String) : GivenTwin guarded (given? params hash position key)
    (call.hash.get? key <|> call.params[position]?) (other.hash.get? key <|> other.params[position]?) :=
  (twin.hash.get? key).orElse (twin.params.getElem? position)

theorem argument? (position : Nat) (key : String) : other.argument? position key = call.argument? position key :=
  (twin.given position key).json

theorem named (key : String) (f : Json → Option γ) :
    ((other.hash.get? key).bind fun found => f found.json) = (call.hash.get? key).bind fun found => f found.json := by
  have same := congrArg (·.bind f) (twin.hash.get? key).json
  simpa only [Option.bind_map, Function.comp_def] using same

theorem param? (position : Nat) : other.param? position = call.param? position :=
  (twin.params.getElem? position).json

theorem maybe {position : Nat} {key text : String} (given : call.argument? position key = some (.string text)) :
    ∃ argument ∈ given? params hash position key, argument.MayBe text := by
  have both := twin.given position key
  unfold Call.argument? at given
  generalize given? params hash position key = argument at both ⊢
  generalize (call.hash.get? key <|> call.params[position]?) = found at both given
  generalize (other.hash.get? key <|> other.params[position]?) = otherFound at both
  cases both with
  | none => cases given
  | some twin => exact ⟨_, rfl, twin.maybe text (Option.some.inj given)⟩

theorem invalid (reason : String) : other.invalid reason = call.invalid reason := by
  unfold Call.invalid
  rw [twin.name]

theorem functionArguments : Helper.functionArguments other = Helper.functionArguments call := by
  unfold Helper.functionArguments
  simp only [twin.params.json, twin.hash.json, twin.invalid]

end CallTwin

variable {twins : Twins} {watch : Watch} {params : List Argument} {hash : List (String × Argument)} {call other : Call}
  {scope : Scope}

namespace Render.Twin

section
variable (twin : CallTwin twins.guarded params hash call other)
include twin

theorem param (position : Nat) :
    (call.param position).Twin twins watch (FoundTwin twins.guarded) (other.param position) := by
  unfold Call.param
  rw [twin.name]
  have both := twin.params.getElem? position
  generalize params[position]? = argument at both
  generalize call.params[position]? = found at both ⊢
  generalize other.params[position]? = otherFound at both ⊢
  cases both with
  | none => exact fail _ _
  | some twin => exact pure twin.value

theorem variableName : (Helper.variableName call).Twin twins watch
    (fun name other => other = name ∧ ∃ argument ∈ given? params hash 0 "name", argument.MayBe name)
    (Helper.variableName other) := by
  unfold Helper.variableName
  rw [twin.argument?, twin.invalid]
  split
  next name given =>
    split
    · exact fail _ _
    · exact pure ⟨rfl, twin.maybe given⟩
  next => exact fail _ _

theorem assign (fits : ∀ name, scope.free name → watch.free name)
    (spares : Helper.Spares twins.toRules scope params hash .set) :
    (Helper.assign call).Twin twins watch Same (Helper.assign other) := by
  refine bind (variableName twin) fun name _ agreed => ?_
  obtain ⟨rfl, argument, given, maybe⟩ := agreed
  have assignable := spares argument given _ maybe
  rw [twin.argument?]
  exact renewing (.insert assignable _) fits fun _ => ""

theorem variableValue (spares : Helper.Spares twins.toRules scope params hash .get) :
    (Helper.variableValue call).Twin twins watch Same (Helper.variableValue other) := by
  refine bind (variableName twin) fun name _ agreed => ?_
  obtain ⟨rfl, argument, given, maybe⟩ := agreed
  refine bind (lookup (spares argument given _ maybe)) fun value _ same => ?_
  subst same
  exact pure rfl

theorem areEqual : (Helper.areEqual call).Twin twins watch Same (Helper.areEqual other) := by
  unfold Helper.areEqual
  rw [twin.invalid]
  have all := twin.params
  generalize call.params = values at all ⊢
  generalize other.params = others at all ⊢
  cases all with
  | nil => exact fail _ _
  | cons first rest =>
    cases rest with
    | nil => exact fail _ _
    | cons second rest =>
      refine pure ?_
      rw [Same, first.value.json, second.value.json]

theorem callFunction {function : Function} (fits : ∀ name, scope.free name → watch.free name)
    (member : function ∈ twins.functions)
    (spares : Helper.Spares twins.toRules scope params hash (.function function)) :
    (Helper.callFunction twins.host function call).Twin twins watch Same
      (Helper.callFunction twins.host function other) := by
  unfold Helper.callFunction
  rw [twin.functionArguments]
  have ignores : Run.Ignores twins.name twins.value (twins.assigns function)
      (do Helper.dispatch twins.host function (← Run.ofExcept (Helper.functionArguments call))) :=
    .bind (.ofExcept _) fun arguments => twins.calls function member arguments
  exact renewing ignores (fun name assigned => fits name (spares name assigned)) id

theorem writeMissing : (Helper.writeMissing twins.host call).Twin twins watch Same
    (Helper.writeMissing twins.host other) := by
  unfold Helper.writeMissing
  rw [twin.params.isEmpty.1, twin.params.isEmpty.2, twin.hash.isEmpty.1, twin.hash.isEmpty.2, twin.name]
  split
  · exact pure rfl
  · exact fail _ _

theorem member : (Helper.member call).Twin twins watch Same (Helper.member other) := by
  refine bind (param twin 0) fun collection _ first => bind (param twin 1) fun key _ second => pure ?_
  rw [Same, first.json, second.json]

theorem writeLog : (Helper.writeLog call).Twin twins watch Same (Helper.writeLog other) := by
  unfold Helper.writeLog
  rw [twin.named "level" Json.string?, twin.name]
  dsimp only
  split
  · exact pure rfl
  · exact fail _ _

theorem truth {helper : Helper} {truth : Render Bool} (found : helper.truth? call = some truth) :
    ∃ otherTruth, helper.truth? other = some otherTruth ∧ truth.Twin twins watch Same otherTruth := by
  cases helper <;> simp only [Helper.truth?, Option.some.injEq, reduceCtorEq] at found ⊢ <;> subst found <;>
    refine ⟨_, rfl, ?_⟩
  case relation r =>
    refine bind (param twin 0) fun a _ first => bind (param twin 1) fun b _ second => pure ?_
    rw [Same, first.json, second.json]
  case conjunction => exact pure (twin.params.all _)
  case disjunction => exact pure (twin.params.any _)
  case negation =>
    refine bind (param twin 0) fun a _ first => pure ?_
    rw [Same, first.json]

theorem value {helper : Helper} (fits : ∀ name, scope.free name → watch.free name)
    (registered : helper.Registered twins.host) (spares : helper.Spares twins.toRules scope params hash)
    {value : Render Json} (found : helper.value? twins.host call = some value) :
    ∃ otherValue, helper.value? twins.host other = some otherValue ∧ value.Twin twins watch Same otherValue := by
  unfold Helper.value? at found
  split at found
  · cases found
    exact ⟨_, rfl, variableValue twin spares⟩
  · cases found
    refine ⟨_, rfl, bind (areEqual twin) fun equal _ same => pure ?_⟩
    rw [Same, same]
  · cases found
    exact ⟨_, rfl, member twin⟩
  · cases found
    refine ⟨_, rfl, bind (param twin 0) fun value _ first => pure ?_⟩
    rw [Same, first.json]
  · cases found
    refine ⟨_, rfl, bind (callFunction twin fits (registered _ rfl) spares) fun result _ same => pure ?_⟩
    rw [Same, same]
  next get equal lookup length function =>
    obtain ⟨truth, same, rfl⟩ := Option.map_eq_some_iff.mp found
    obtain ⟨otherTruth, otherSame, alike⟩ : ∃ otherTruth, helper.truth? other = some otherTruth ∧
      truth.Twin twins watch Same otherTruth := Twin.truth twin same
    refine ⟨_, ?_, bind alike fun holds _ equal => pure (congrArg Json.bool equal)⟩
    unfold Helper.value?
    split
    · exact absurd rfl get
    · exact absurd rfl equal
    · exact absurd rfl lookup
    · exact absurd rfl length
    · exact absurd rfl (function _)
    · rw [otherSame]
      rfl

end

/-! Parts of blocks. -/

/-- The parts of two calls, in the blocks around the calls. -/
structure Parts (twins : Twins) (watch : Watch) (call other : Call) : Prop where
  isBlock : other.isBlock = call.isBlock
  body : call.writeBody.Twin twins watch Same other.writeBody
  inverse : call.writeInverse.Twin twins watch Same other.writeInverse

theorem Parts.of_none (body : call.body = none) (otherBody : other.body = none) (inverse : call.inverse = none)
    (otherInverse : other.inverse = none) : Parts twins watch call other where
  isBlock := by rw [Call.isBlock, Call.isBlock, body, otherBody]
  body := by
    unfold Call.writeBody
    rw [body, otherBody]
    exact pure rfl
  inverse := by
    unfold Call.writeInverse
    rw [inverse, otherInverse]
    exact pure rfl

section
variable (twin : CallTwin twins.guarded params hash call other)
include twin

theorem writeMessage (parts : Parts twins watch call other)
    (spares : Helper.Spares twins.toRules scope params hash .message) :
    (Helper.writeMessage call).Twin twins watch Same (Helper.writeMessage other) := by
  unfold Helper.writeMessage
  rw [parts.isBlock, twin.params.isEmpty.1, twin.params.isEmpty.2, twin.hash.isEmpty.1, twin.hash.isEmpty.2,
    twin.argument?]
  split
  next alone =>
    simp only [Bool.and_eq_true, List.isEmpty_iff] at alone
    exact bind (lookup (spares alone.1.2 alone.2)) fun value _ same => pure (by rw [Same, same])
  · split
    · split
      · exact fail _ _
      · exact bind parts.body fun text _ same => pure (by rw [Same, same])
    · exact fail _ _

theorem writeCondition (parts : Parts twins watch call other) (positive : Bool) :
    (Helper.writeCondition positive call).Twin twins watch Same (Helper.writeCondition positive other) := by
  refine bind (param twin 0) fun value _ first => ?_
  rw [twin.named "includeZero" Json.bool?, first.json]
  dsimp only
  split
  · exact parts.body
  · exact parts.inverse

omit twin in
theorem writeTruth (parts : Parts twins watch call other) (holds : Bool) :
    (Helper.writeTruth call holds).Twin twins watch Same (Helper.writeTruth other holds) := by
  unfold Helper.writeTruth
  rw [parts.isBlock]
  split
  · exact pure rfl
  · split
    · exact parts.body
    · exact parts.inverse

/-- Helpers other than those whose bodies are about a value. -/
theorem writePlain {helper : Helper} (fits : ∀ name, scope.free name → watch.free name)
    (registered : helper.Registered twins.host) (spares : helper.Spares twins.toRules scope params hash)
    (parts : Parts twins watch call other) (plain : ¬ helper.Opens) :
    (helper.write twins.host call).Twin twins watch Same (helper.write twins.host other) := by
  unfold Helper.write
  split
  · exact writeMessage twin parts spares
  · exact assign twin fits spares
  · exact bind (variableValue twin spares) fun value _ same => pure (by rw [Same, same])
  · rw [twin.param?]
    exact pure rfl
  · refine bind (areEqual twin) fun equal _ same => ?_
    rw [same]
    exact pure rfl
  · exact parts.body
  · exact writeMissing twin
  · exact writeCondition twin parts _
  · exact absurd (.inl rfl) plain
  · exact absurd (.inr rfl) plain
  · refine bind (member twin) fun value _ same => ?_
    rw [same]
    exact emit _
  · refine bind (param twin 0) fun value _ first => ?_
    rw [first.json]
    exact emit _
  · exact writeLog twin
  · refine bind (callFunction twin fits (registered _ rfl) spares) fun result _ same => ?_
    rw [same]
    exact pure rfl
  · cases found : helper.truth? call with
    | some truth =>
      obtain ⟨otherTruth, otherFound, alike⟩ : ∃ otherTruth, helper.truth? other = some otherTruth ∧
        truth.Twin twins watch Same otherTruth := Twin.truth twin found
      rw [otherFound]
      refine bind alike fun holds _ same => ?_
      rw [same]
      exact writeTruth parts holds
    | none =>
      have missing : helper.truth? other = none := by
        cases helper <;> simp only [Helper.truth?, reduceCtorEq] at found ⊢
      rw [missing]
      exact pure rfl

/-- Helpers without any parts. -/
theorem writeAlone {helper : Helper} (fits : ∀ name, scope.free name → watch.free name)
    (registered : helper.Registered twins.host) (spares : helper.Spares twins.toRules scope params hash)
    (body : call.body = none ∧ other.body = none) (inverse : call.inverse = none ∧ other.inverse = none) :
    (helper.write twins.host call).Twin twins watch Same (helper.write twins.host other) := by
  by_cases opens : helper.Opens
  · rcases opens with rfl | rfl
    · refine bind (param twin 0) fun collection _ _ => ?_
      rw [body.1, body.2]
      exact pure rfl
    · refine bind (param twin 0) fun value _ first => ?_
      dsimp only
      rw [first.json, Call.writeInverse, Call.writeInverse, body.1, body.2, inverse.1, inverse.2]
      split
      · exact locally (pure rfl)
      · exact pure rfl
  · exact writePlain twin fits registered spares (.of_none body.1 body.2 inverse.1 inverse.2) opens

theorem evaluate {helper : Helper} (fits : ∀ name, scope.free name → watch.free name)
    (registered : helper.Registered twins.host) (spares : helper.Spares twins.toRules scope params hash)
    (body : call.body = none ∧ other.body = none) (inverse : call.inverse = none ∧ other.inverse = none) :
    (helper.evaluate twins.host call).Twin twins watch Same (helper.evaluate twins.host other) := by
  unfold Helper.evaluate
  cases found : helper.value? twins.host call with
  | some value =>
    obtain ⟨otherValue, otherFound, alike⟩ : ∃ otherValue, helper.value? twins.host other = some otherValue ∧
      value.Twin twins watch Same otherValue := Twin.value twin fits registered spares found
    rw [otherFound]
    exact alike
  | none =>
    have missing : helper.value? twins.host other = none := by
      cases helper <;> simp only [Helper.value?, Helper.truth?, Option.map_some, Option.map_none, reduceCtorEq]
        at found ⊢
    rw [missing]
    exact bind (writeAlone twin fits registered spares body inverse) fun text _ same => pure (by rw [Same, same])

end

end Render.Twin

/-! Arguments. -/

/-- The blocks around the same part of a template, where names may be assigned that nothing relies on. -/
structure Placed (twins : Twins) (watch : Watch) (scope : Scope) (blocks others : List Block) : Prop where
  fits : ∀ name, scope.free name → watch.free name
  around : Around twins.toRules twins.value watch scope.depth blocks others

/-- What an argument comes to at a moment. -/
structure Evaluated (twins : Twins) (watch : Watch) (scope : Scope) (argument : Argument) (moment : Moment)
    (found other : Found) : Prop extends ArgumentTwin twins.guarded argument found other where
  anchored : found.Anchored twins.toRules watch (argument.anchor? scope.depth) moment.state.bindings
  proper : twins.guarded = true → ∀ path item, found = .place path item → item.Proper
  missing : found = .missing → (∃ text, argument = .name text) ∨ ∃ path, argument = .path path

theorem Evaluated.of_value {argument : Argument} {value other : Json} (same : other = value)
    (maybe : ∀ text, value = .string text → argument.MayBe text) (moment : Moment) :
    Evaluated twins watch scope argument moment (.value value) (.value other) where
  value := same ▸ .same fun _ _ _ => nofun
  maybe := maybe
  anchored := .of_value fun _ _ => nofun
  proper _ _ _ := nofun
  missing := nofun

/-- What is seen of what was found under one path. What the second rendering found earlier than the first one
may lack its place, but only while variables are left alone. -/
theorem Evaluated.of_found {path : Path} {moment otherMoment : Moment} (alike : Alike twins watch moment otherMoment)
    {found other : Found} (shown : other.json = found.json) (same : twins.guarded = false → other = found)
    (anchored : found.Anchored twins.toRules watch (path.anchor? scope.depth) moment.state.bindings) :
    Evaluated twins watch scope (.path path) moment (moment.progress.seen found) (otherMoment.progress.seen other) := by
  have renewed := alike.renewed
  have coherent := alike.coherent
  unfold Moment.Coherent at coherent
  unfold Progress.seen
  -- The first rendering has not renewed its context before the second one.
  cases first : moment.progress.renewed with
  | none =>
    rw [first, Option.getD_none] at coherent
    cases second : otherMoment.progress.renewed with
    | none =>
      have unguarded : twins.guarded = false := by simpa [first, second] using renewed
      have off {P : Prop} (on : twins.guarded = true) : P := by
        rw [unguarded] at on
        cases on
      rw [same unguarded]
      exact {
        value := .same off
        maybe := fun _ _ => trivial
        anchored
        proper := off
        missing := fun _ => .inr ⟨path, rfl⟩ }
    | some context =>
      have on : twins.guarded = true := by simpa [first, second] using renewed
      have proper (place : List String) (item : Json) (there : found = .place place item) : item.Proper := by
        obtain ⟨key, keys, rfl, -, followed, -⟩ := anchored.place place item there
        exact follow_proper (coherent ▸ twins.proper on) followed
      rw [shown]
      exact {
        value := .settled on
        maybe := fun _ _ => trivial
        anchored
        proper := fun _ => proper
        missing := fun _ => .inr ⟨path, rfl⟩ }
  | some context =>
    cases second : otherMoment.progress.renewed with
    | none => simp [first, second] at renewed
    | some otherContext =>
      exact @Evaluated.of_value twins watch scope (.path path) _ _ shown (fun _ _ => trivial) moment

section
variable {blocks others : List Block} (placed : Placed twins watch scope blocks others)
include placed

theorem evaluate_path_meets {path : Path} (spares : path.Spares twins.toRules scope) {moment otherMoment : Moment}
    (alike : Alike twins watch moment otherMoment) :
    (evaluate twins.setting blocks (.path path)).Meets twins watch (Evaluated twins watch scope (.path path))
      (evaluate twins.otherSetting others (.path path)) moment otherMoment := by
  have looked := placed.around.lookup alike.states.bindings alike.kept spares
  unfold Render.Meets
  rw [evaluate_path_apply, evaluate_path_apply, alike.coherent, alike.otherCoherent]
  generalize lookup (.object moment.state.bindings) blocks path = outcome at looked ⊢
  generalize lookup (.object otherMoment.state.bindings) others path = otherOutcome at looked ⊢
  cases looked with
  | error same =>
    refine .error fun unguarded => ?_
    rw [same unguarded]
    exact ⟨rfl, alike.states, alike.kept⟩
  | ok shown same anchored => exact .ok (.of_found alike shown same anchored) alike

omit placed in
mutual

theorem evaluate_meets (placed : Placed twins watch scope blocks others) (argument : Argument)
    (spares : argument.Spares twins.toRules scope) {moment otherMoment : Moment}
    (alike : Alike twins watch moment otherMoment) :
    (evaluate twins.setting blocks argument).Meets twins watch (Evaluated twins watch scope argument)
      (evaluate twins.otherSetting others argument) moment otherMoment :=
  match argument with
  | .name text => by
    refine .pure alike (?_ : Evaluated twins watch scope (.name text) _ _ _)
    exact {
      value := .same fun _ _ _ => nofun
      maybe := fun _ _ => trivial
      anchored := .of_value fun _ _ => nofun
      proper := fun _ _ _ => nofun
      missing := fun _ => .inl ⟨text, rfl⟩ }
  | .path path => evaluate_path_meets placed spares alike
  | .literal value => by
    refine .pure alike (.of_value rfl (fun text shown => ?_) _)
    rw [shown]
    rfl
  | .call name params hash => by
    obtain ⟨paramsSpare, hashSpares, helperSpares⟩ := spares
    refine .bind (evaluateAll_twin placed params paramsSpare _ _ alike) fun values otherValues _ _ all alike => ?_
    refine .bind (evaluateHash_twin placed hash hashSpares _ _ alike) fun fields otherFields _ _ named alike => ?_
    have called : CallTwin twins.guarded params hash { name, params := values, hash := fields, blocks }
        { name, params := otherValues, hash := otherFields, blocks := others } := ⟨rfl, rfl, all, named⟩
    have helped := Render.Twin.evaluate called placed.fits (Helper.registered_getD twins.host name) helperSpares
      ⟨rfl, rfl⟩ ⟨rfl, rfl⟩
    exact .bind (helped _ _ alike) fun value otherValue later _ same alike =>
      .pure alike (@Evaluated.of_value twins watch scope (.call name params hash) _ _ same (fun _ _ => trivial) later)

theorem evaluateAll_twin (placed : Placed twins watch scope blocks others) (arguments : List Argument)
    (spare : AllSpare twins.toRules scope arguments) :
    (evaluateAll twins.setting blocks arguments).Twin twins watch (AllTwins twins.guarded arguments)
      (evaluateAll twins.otherSetting others arguments) :=
  match arguments with
  | [] => .pure .nil
  | argument :: arguments => by
    intro moment otherMoment alike
    refine .bind (evaluate_meets placed argument spare.1 alike) fun found other _ _ first alike => ?_
    refine .bind (evaluateAll_twin placed arguments spare.2 _ _ alike) fun values otherValues _ _ rest alike => ?_
    exact .pure alike (.cons first.toArgumentTwin rest)

theorem evaluateHash_twin (placed : Placed twins watch scope blocks others) (arguments : List (String × Argument))
    (spare : NamedSpare twins.toRules scope arguments) :
    (evaluateHash twins.setting blocks arguments).Twin twins watch (HashTwins twins.guarded arguments)
      (evaluateHash twins.otherSetting others arguments) :=
  match arguments with
  | [] => .pure .nil
  | (key, argument) :: arguments => by
    intro moment otherMoment alike
    refine .bind (evaluate_meets placed argument spare.1 alike) fun found other _ _ first alike => ?_
    refine .bind (evaluateHash_twin placed arguments spare.2 _ _ alike) fun values otherValues _ _ rest alike => ?_
    exact .pure alike (.cons first.toArgumentTwin rest)

end

/-- A call is by the same name in both, which is one that the call may have. -/
theorem nameOf_twin {e : Expression} (spares : e.CallSpares twins.toRules scope) :
    (nameOf twins.setting blocks e.head).Twin twins watch (fun name other => other = name ∧ e.MayCall name)
      (nameOf twins.otherSetting others e.head) := by
  have mayCall {name : String} (written : e.writtenName? = some name) : e.MayCall name := fun other found =>
    Option.some.inj (written.symm.trans found)
  have unwritten (none : e.writtenName? = none) (name : String) : e.MayCall name := fun _ found => by
    rw [none] at found
    cases found
  have valued (argument : Argument) (same : e.head = argument) (none : e.writtenName? = none) :
      Render.Twin twins watch (fun name other => other = name ∧ e.MayCall name)
        (do return shown (← evaluate twins.setting blocks argument).json)
        (do return shown (← evaluate twins.otherSetting others argument).json) := by
    intro moment otherMoment alike
    refine .bind (evaluate_meets placed argument (same ▸ spares.head) alike) fun found other _ _ first alike => ?_
    exact .pure alike ⟨by rw [first.value.json], unwritten none _⟩
  unfold Expression.writtenName? at mayCall unwritten valued
  unfold nameOf
  cases head : e.head with
  | name text => exact .pure ⟨rfl, mayCall (by rw [head])⟩
  | path path => exact .pure ⟨rfl, mayCall (by rw [head])⟩
  | literal value => exact valued _ head (by rw [head])
  | call name params hash => exact valued _ head (by rw [head])

/-- A call as it is evaluated, before it gets any parts. -/
structure Called (guarded : Bool) (e : Expression) (blocks others : List Block) (call other : Call) : Prop where
  twin : CallTwin guarded e.params e.hash call other
  mayCall : e.MayCall call.name
  blocks : call.blocks = blocks ∧ other.blocks = others
  body : call.body = none ∧ other.body = none
  inverse : call.inverse = none ∧ other.inverse = none

theorem call_twin {e : Expression} (spares : e.CallSpares twins.toRules scope) :
    (Template.call twins.setting blocks e).Twin twins watch (Called twins.guarded e blocks others)
      (Template.call twins.otherSetting others e) := by
  refine .bind (nameOf_twin placed spares) fun name _ named => ?_
  obtain ⟨rfl, mayCall⟩ := named
  refine .bind (evaluateAll_twin placed _ spares.params) fun values otherValues all => ?_
  refine .bind (evaluateHash_twin placed _ spares.hash) fun fields otherFields hash => ?_
  exact .pure ⟨⟨rfl, rfl, all, hash⟩, mayCall, ⟨rfl, rfl⟩, ⟨rfl, rfl⟩, ⟨rfl, rfl⟩⟩

theorem writeCall_twin {e : Expression} (spares : e.Spares twins.toRules scope) :
    (writeCall twins.setting blocks e).Twin twins watch Same (writeCall twins.otherSetting others e) := by
  refine .bind (call_twin placed spares.toCallSpares) fun call other called => ?_
  rw [called.twin.name]
  exact .part _ (Render.Twin.writeAlone called.twin placed.fits (Helper.registered_getD twins.host call.name)
    (spares.helper call.name called.mayCall) called.body called.inverse)

omit placed in
/-- What is missing leaves no text, if it may be missing at all, and neither does an empty value. -/
theorem missing_meets {e : Expression} (bare : e.params = [] ∧ e.hash = [])
    (written : (∃ text, e.head = .name text) ∨ ∃ path, e.head = .path path) (guarded : twins.guarded = true)
    {moment otherMoment : Moment} (alike : Alike twins watch moment otherMoment) :
    (do Helper.writeMissing twins.host (← Template.call twins.setting blocks e) : Render String).Meets twins watch
      (fun _ => Same) (Render.emit (shown (Found.value .null).json)) moment otherMoment := by
  have named : ∃ name, e.writtenName? = some name := by
    unfold Expression.writtenName?
    rcases written with ⟨text, head⟩ | ⟨path, head⟩ <;> rw [head] <;> exact ⟨_, rfl⟩
  obtain ⟨name, named⟩ := named
  rw [call_of_writtenName? named, bare.1, bare.2]
  simp only [evaluateAll, evaluateHash, pure_bind]
  unfold Helper.writeMissing
  split
  · have empty : Render.emit "" otherMoment.progress otherMoment.state =
        (.ok ("", otherMoment.progress), otherMoment.state) := rfl
    unfold Render.Meets
    rw [show shown (Found.value .null).json = "" from rfl, empty]
    exact .ok rfl alike
  · exact .error fun unguarded => by rw [guarded] at unguarded; cases unguarded

theorem writeOutput_twin {e : Expression} (spares : e.Spares twins.toRules scope) :
    (writeOutput twins.setting blocks e).Twin twins watch Same (writeOutput twins.otherSetting others e) := by
  unfold writeOutput
  rw [twins.setting_host, twins.otherSetting_host]
  split
  · exact writeCall_twin placed spares
  next isBare =>
    have bare : e.params = [] ∧ e.hash = [] := by simpa [Expression.isBare] using isBare
    refine .bind (nameOf_twin placed spares.toCallSpares) fun name _ named => ?_
    obtain ⟨rfl, -⟩ := named
    split
    · exact writeCall_twin placed spares
    intro moment otherMoment alike
    refine .bind (evaluate_meets placed e.head spares.head alike) fun found other later otherLater first alike => ?_
    cases first.value with
    | same _ =>
      cases found with
      | missing =>
        exact .bind (call_twin placed spares.toCallSpares _ _ alike) fun _ _ _ _ called alike =>
          Render.Twin.writeMissing called.twin _ _ alike
      | place path item => exact Render.Twin.emit _ _ _ alike
      | value item => exact Render.Twin.emit _ _ _ alike
    | settled on =>
      cases found with
      | missing => exact missing_meets bare (first.missing rfl) on alike
      | place path item => exact Render.Twin.emit _ _ _ alike
      | value item => exact Render.Twin.emit _ _ _ alike

end

end PromptKernel.Template
