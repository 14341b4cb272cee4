import PromptKernel.Proofs.LookupCoherence

/-! Names that stand for nothing. A call by a name that no helper has fails once its arguments are
evaluated, wherever it is written. A name alone is looked up first. If it leads nowhere it writes
nothing, unless it could be that of a function and no helper has renewed the context yet: a renewed
context no longer tells a name without a value from one that holds null. -/

namespace PromptKernel.Template

/-- The name goes on behind the group of some function and a mark. -/
def Helper.InGroup (functions : List Function) (name : String) : Prop :=
  ∃ function ∈ functions, ∃ rest, rest ≠ "" ∧ name = function.definition.group ++ "_" ++ rest

theorem Helper.isInGroup_iff (functions : List Function) (name : String) :
    Helper.isInGroup functions name = true ↔ Helper.InGroup functions name := by
  have split (group : String) : (∃ c rest, Text.dropPrefix? group.toList name.toList = some ('_' :: c :: rest)) ↔
      ∃ rest, rest ≠ "" ∧ name = group ++ "_" ++ rest := by
    constructor
    · rintro ⟨c, rest, found⟩
      refine ⟨String.ofList (c :: rest), ?_, ?_⟩
      · intro empty
        simpa using congrArg String.toList empty
      · apply String.toList_inj.mp
        simp [Text.dropPrefix?_eq_some_iff.mp found]
    · rintro ⟨rest, nonempty, rfl⟩
      obtain ⟨c, more, same⟩ := List.exists_cons_of_ne_nil (mt String.toList_eq_nil_iff.mp nonempty)
      exact ⟨c, more, Text.dropPrefix?_eq_some_iff.mpr (by simp [same])⟩
  unfold Helper.isInGroup
  rw [List.any_eq_true]
  constructor
  · rintro ⟨function, member, follows⟩
    refine ⟨function, member, (split _).mp ?_⟩
    split at follows
    next c rest found => exact ⟨c, rest, found⟩
    next => cases follows
  · rintro ⟨function, member, named⟩
    obtain ⟨c, rest, found⟩ := (split _).mpr named
    refine ⟨function, member, ?_⟩
    rw [found]
    rfl

instance (functions : List Function) (name : String) : Decidable (Helper.InGroup functions name) :=
  decidable_of_iff _ (Helper.isInGroup_iff functions name)

/-- What a call by the name of no helper comes to. Its arguments are evaluated before it fails. -/
def refuse (setting : Setting) (blocks : List Block) (params : List Argument) (hash : List (String × Argument))
    (name : String) : Render α := do
  let _ ← evaluateAll setting blocks params
  let _ ← evaluateHash setting blocks hash
  Render.fail (.unknownHelper name)

/-- The context that names are looked up in. -/
def Progress.context (progress : Progress) (setting : Setting) : Json := progress.renewed.getD setting.context

theorem length_evaluateAll {setting : Setting} {blocks : List Block} {arguments : List Argument}
    {values : List Found} {progress later : Progress} {state after : State}
    (done : evaluateAll setting blocks arguments progress state = (.ok (values, later), after)) :
    values.length = arguments.length := by
  induction arguments generalizing values progress state with
  | nil => cases done; rfl
  | cons argument arguments ih =>
    rw [evaluateAll, Render.bind_apply] at done
    split at done
    next value middle between _ =>
      rw [Render.bind_apply] at done
      split at done
      next rest _ _ inner => cases done; rw [List.length_cons, List.length_cons, ih inner]
      next => cases done
    next => cases done

theorem length_evaluateHash {setting : Setting} {blocks : List Block} {hash : List (String × Argument)}
    {values : Fields Found} {progress later : Progress} {state after : State}
    (done : evaluateHash setting blocks hash progress state = (.ok (values, later), after)) :
    values.length = hash.length := by
  induction hash generalizing values progress state with
  | nil => cases done; rfl
  | cons entry hash ih =>
    obtain ⟨key, argument⟩ := entry
    rw [evaluateHash, Render.bind_apply] at done
    split at done
    next value middle between _ =>
      rw [Render.bind_apply] at done
      split at done
      next rest _ _ inner => cases done; rw [List.length_cons, List.length_cons, ih inner]
      next => cases done
    next => cases done

/-- Whatever the arguments come to, there are as many of them as before. -/
theorem refuse_of_given {setting : Setting} {blocks : List Block} {params : List Argument}
    {hash : List (String × Argument)} {name : String} (given : (params.isEmpty && hash.isEmpty) = false)
    {finish : List Found → Fields Found → Render α}
    (fails : ∀ values fields, (values.isEmpty && List.isEmpty fields) = false →
      finish values fields = Render.fail (.unknownHelper name)) :
    (do
      let values ← evaluateAll setting blocks params
      let fields ← evaluateHash setting blocks hash
      finish values fields) = refuse setting blocks params hash name := by
  funext progress state
  unfold refuse
  rw [Render.bind_apply, Render.bind_apply]
  rcases evaluated : evaluateAll setting blocks params progress state with ⟨error | ⟨values, later⟩, middle⟩
  · rfl
  · dsimp only
    rw [Render.bind_apply, Render.bind_apply]
    rcases named : evaluateHash setting blocks hash later middle with ⟨error | ⟨fields, last⟩, after⟩
    · rfl
    · dsimp only
      rw [fails values fields]
      have positional : values.isEmpty = params.isEmpty := by
        rw [Bool.eq_iff_iff, List.isEmpty_iff_length_eq_zero, List.isEmpty_iff_length_eq_zero,
          length_evaluateAll evaluated]
      have byName : List.isEmpty fields = hash.isEmpty := by
        rw [Bool.eq_iff_iff, List.isEmpty_iff_length_eq_zero, List.isEmpty_iff_length_eq_zero,
          length_evaluateHash named]
      rwa [positional, byName]

section
variable {setting : Setting} {name : String} (unnamed : Helper.ofName? setting.host.functions name = none)
  (blocks : List Block)
include unnamed

theorem writeOutput_refused {e : Expression} (written : e.writtenName? = some name) (given : e.isBare = false) :
    writeOutput setting blocks e = refuse setting blocks e.params e.hash name := by
  have called : writeOutput setting blocks e = writeCall setting blocks e := by
    unfold writeOutput
    rw [given]
    rfl
  rw [called]
  unfold writeCall
  rw [call_of_writtenName? written]
  simp only [bind_assoc, pure_bind, unnamed]
  apply refuse_of_given given
  intro values fields nonempty
  change Render.part _ (Helper.writeMissing setting.host _) = _
  unfold Helper.writeMissing
  rw [if_neg (by simp [nonempty])]
  rfl

theorem renderElement_refused {e : Expression} (written : e.writtenName? = some name) (included : Renderer)
    (names : List String) (ownLine : Bool) (body : List Element) (inverse : Option (List Element)) :
    renderElement setting included (.block e names ownLine body inverse) blocks =
      refuse setting blocks e.params e.hash name := by
  rw [renderElement, call_of_writtenName? written]
  simp only [bind_assoc, pure_bind, unnamed]
  rfl

theorem evaluate_refused {params : List Argument} {hash : List (String × Argument)}
    (given : (params.isEmpty && hash.isEmpty) = false) :
    evaluate setting blocks (.call name params hash) = refuse setting blocks params hash name := by
  rw [evaluate, unnamed]
  apply refuse_of_given given
  intro values fields nonempty
  have missing : Helper.writeMissing setting.host { name, params := values, hash := fields, blocks } =
      Render.fail (.unknownHelper name) := by
    unfold Helper.writeMissing
    rw [if_neg (by simp [nonempty])]
  change (do return .value (← (do return .string (← Helper.writeMissing setting.host _) : Render Json)) :
    Render Found) = _
  rw [missing]
  rfl

/-- A name alone is looked up, and what it is missing is told only by a context that is as old as
the rendering. -/
theorem writeOutput_bare {path : Path} (written : path.written = name) (progress : Progress) (state : State) :
    writeOutput setting blocks ⟨.path path, [], []⟩ progress state =
      match lookup (progress.context setting) blocks path with
      | .error error => (.error error, state)
      | .ok .missing =>
        if progress.renewed = none ∧ Helper.InGroup setting.host.functions name then
          (.error (.unknownHelper name), state)
        else (.ok ("", progress), state)
      | .ok found => Render.emit (shown found.json) progress state := by
  subst written
  rw [writeOutput_path unnamed]
  simp only [Helper.isInGroup_iff]
  rfl

end

/-- A call by a name that no helper has is refused with this name, in text, as a block and as an
argument, at every point of every rendering. A name alone is refused only if it could be that of a
function, nothing is found for it, and no helper has renewed the context before. Nothing is written
for it otherwise. -/
theorem unknown_names_refused {host : Host} {name : String} (unnamed : Helper.ofName? host.functions name = none) :
    (∀ context blocks (e : Expression), e.writtenName? = some name → e.isBare = false →
      writeOutput ⟨host, context⟩ blocks e = refuse ⟨host, context⟩ blocks e.params e.hash name) ∧
    (∀ context included blocks (e : Expression) names ownLine body inverse, e.writtenName? = some name →
      renderElement ⟨host, context⟩ included (.block e names ownLine body inverse) blocks =
        refuse ⟨host, context⟩ blocks e.params e.hash name) ∧
    (∀ context blocks (params : List Argument) (hash : List (String × Argument)),
      (params.isEmpty && hash.isEmpty) = false →
      evaluate ⟨host, context⟩ blocks (.call name params hash) =
        refuse ⟨host, context⟩ blocks params hash name) ∧
    ∀ context blocks (path : Path) (progress : Progress) state, path.written = name →
      writeOutput ⟨host, context⟩ blocks ⟨.path path, [], []⟩ progress state =
        match lookup (progress.context ⟨host, context⟩) blocks path with
        | .error error => (.error error, state)
        | .ok .missing =>
          if progress.renewed = none ∧ Helper.InGroup host.functions name then
            (.error (.unknownHelper name), state)
          else (.ok ("", progress), state)
        | .ok found => Render.emit (shown found.json) progress state := by
  refine ⟨?_, ?_, ?_, ?_⟩
  · intro context blocks e written given
    exact writeOutput_refused unnamed blocks written given
  · intro context included blocks e names ownLine body inverse written
    exact renderElement_refused unnamed blocks written included names ownLine body inverse
  · intro context blocks params hash given
    exact evaluate_refused unnamed blocks given
  · intro context blocks path progress state written
    exact writeOutput_bare unnamed blocks written progress state

def greeting : Function := .native { group := "Chat", name := "Greet" } fun _ => .done (.string "hi")

theorem unknown_names_refused_misspelt :
    let host : Host := ⟨[greeting], fun _ => throw .cancelled⟩
    let setting : Setting := ⟨host, .object []⟩
    Helper.ofName? host.functions "Chat_Great" = none ∧
    writeOutput setting [{}] ⟨.name "Chat_Great", [.literal (.string "x")], []⟩ {} {} =
      (.error (.unknownHelper "Chat_Great"), {}) ∧
    evaluate setting [{}] (.call "Chat_Great" [] [("name", .literal (.string "x"))]) {} {} =
      (.error (.unknownHelper "Chat_Great"), {}) ∧
    writeOutput setting [{}] ⟨.path (.ofName "Chat_Great"), [], []⟩ {} {} =
      (.error (.unknownHelper "Chat_Great"), {}) ∧
    writeOutput setting [{}] ⟨.path (.ofName "Chat_Great"), [], []⟩ { renewed := some (.object []) } {} =
      (.ok ("", { renewed := some (.object []) }), {}) := by
  intro host setting
  have unnamed : Helper.ofName? host.functions "Chat_Great" = none := rfl
  obtain ⟨output, -, argument, bare⟩ := unknown_names_refused unnamed
  have grouped : Helper.InGroup host.functions "Chat_Great" := by decide
  refine ⟨unnamed, ?_, ?_, ?_, ?_⟩
  · rw [output _ _ _ rfl rfl]
    rfl
  · rw [argument _ _ _ _ rfl]
    rfl
  · rw [bare _ _ _ _ _ rfl]
    exact if_pos ⟨rfl, grouped⟩
  · rw [bare _ _ _ _ _ rfl]
    exact if_neg nofun

theorem read?_misspelt : read? "\x7b\x7bChat_Great\x7d\x7d" = some [.output ⟨.path (.ofName "Chat_Great"), [], []⟩] := by
  rw [read?_of_expand "\x7b\x7bChat_Great\x7d\x7d" (by decide +kernel)]
  simp only [String.reduceToList]
  rfl

theorem read?_misspelt_later : read? "\x7b\x7bset \"x\" 1\x7d\x7d\x7b\x7bChat_Great\x7d\x7d" = some [
    .output ⟨.name "set", [.literal (.string "x"), .literal (.integer 1)], []⟩,
    .output ⟨.path (.ofName "Chat_Great"), [], []⟩] := by
  rw [read?_of_expand "\x7b\x7bset \"x\" 1\x7d\x7d\x7b\x7bChat_Great\x7d\x7d" (by decide +kernel)]
  simp only [String.reduceToList]
  rfl

/-- Binding any variable is enough for a misspelt name of a function to go unnoticed. -/
theorem misspelt_name_vanishes :
    let kernel : Kernel := ⟨[greeting], [], none, none⟩
    let host := kernel.host (kernel.invokeWithin 1)
    Helper.ofName? host.functions "Chat_Great" = none ∧ Helper.InGroup host.functions "Chat_Great" ∧
    (render host "\x7b\x7bChat_Great\x7d\x7d" {}).1 = .error (.unknownHelper "Chat_Great") ∧
    (render host "\x7b\x7bset \"x\" 1\x7d\x7d\x7b\x7bChat_Great\x7d\x7d" {}).1 = .ok "" := by
  intro kernel host
  refine ⟨rfl, by decide, ?_, ?_⟩
  · rw [render_of_read? read?_misspelt, renderTree_apply]
    rfl
  · rw [render_of_read? read?_misspelt_later, renderTree_apply]
    rfl

end PromptKernel.Template
