import PromptKernel.Proofs.BindingOutcomes
import PromptKernel.Proofs.RenderedTurns
import PromptKernel.Proofs.SubmittedTurns

/-! Conversations that are kept in a variable. A template goes through the turns and writes each of them as a
message, with the role and the content of the item that it is at. So it writes the transcript of the
conversation, and a function with this template takes the conversation up where it was left. -/

namespace PromptKernel

namespace Template

/-! Loops. -/

namespace Render.Gives
variable {state : State}

theorem locally {render : Render String} {outcome : Except Error String} (inside : render.Gives state outcome) :
    (Render.locally render).Gives state outcome := by
  intro margin flush
  obtain ⟨after, ends, written⟩ := inside margin flush
  refine ⟨after, ends, ?_⟩
  rw [locally_apply, written]
  cases outcome <;> rfl

theorem writeItems {call : Call} {collection : Found} {body : List Block → Render String} {entries : List ι}
    {item : ι → Helper.Item} {text : ι → String}
    (inside : ∀ entry ∈ entries, ∀ position isLast,
      (body (Helper.itemBlock collection call.names (item entry) position isLast :: call.blocks)).Gives state
        (.ok (text entry)))
    (position : Nat) : (Helper.writeItems call collection body position (entries.map item)).Gives state
      (.ok (String.join (entries.map text))) := by
  induction entries generalizing position with
  | nil => exact fun margin flush => ⟨margin, flush, rfl⟩
  | cons entry entries ih =>
    have first := inside entry List.mem_cons_self position (entries.map item).isEmpty
    have later := ih (fun other member => inside other (List.mem_cons_of_mem _ member)) (position + 1)
    rw [List.map_cons, List.map_cons, String.join_cons]
    exact first.append later

/-- An element without any others behind it. -/
theorem alone {setting : Setting} {included : Renderer} {element : Element} {blocks : List Block} {text : String}
    (gives : (renderElement setting included element blocks).Gives state (.ok text)) :
    (renderElements setting included [element] blocks).Gives state (.ok text) := by
  have nothing : (renderElements setting included [] blocks).Gives state (.ok "") :=
    fun margin flush => ⟨margin, flush, rfl⟩
  have both := gives.append nothing
  rwa [show (Except.ok text : Except Error String).bind (fun text => (Except.ok "").map (text ++ ·)) = .ok text
    from congrArg Except.ok String.append_empty] at both

end Render.Gives

section
variable {setting : Setting} {blocks : List Block} {state : State}

/-- A loop over an array writes its body for one item after the other, at the place of the item. -/
theorem gives_writeEach {call : Call} {path : List String} {entries : List ι} {value : ι → Json}
    {body : List Block → Render String} {text : ι → String}
    (given : call.params = [.place path (.array (entries.map value))]) (unnamed : call.names = [])
    (opened : call.body = some body) (alone : call.inverse = none)
    (inside : ∀ entry (i : Nat), entries[i]? = some entry → ∀ locals,
      (body ({ base := .place (path ++ [toString i]), locals } :: call.blocks)).Gives state (.ok (text entry))) :
    (Helper.writeEach call).Gives state (.ok (String.join (entries.map text))) := by
  let item (entry : ι × Nat) : Helper.Item := ⟨toString entry.2, .integer (Int.ofNat entry.2), value entry.1⟩
  have listed : Helper.items? (.array (entries.map value)) = some (entries.zipIdx.map item) := by
    simp only [Helper.items?, List.zipIdx_map, List.map_map]
    rfl
  have texts : entries.map text = entries.zipIdx.map fun entry => text entry.1 := by
    conv => lhs; rw [← List.zipIdx_map_fst 0 entries, List.map_map]
    rfl
  have looped : (Helper.writeItems call (.place path (.array (entries.map value))) body 0
      (entries.zipIdx.map item)).Gives state (.ok (String.join (entries.zipIdx.map fun entry => text entry.1))) := by
    apply Render.Gives.writeItems
    intro entry member position isLast
    rw [unnamed]
    exact inside entry.1 entry.2 (List.mem_zipIdx_iff_getElem?.mp member) _
  rw [texts]
  unfold Helper.writeEach
  simp only [Call.param, given, opened, Call.writeInverse, alone, List.getElem?_cons_zero, pure_bind, Found.json, listed]
  cases same : entries.zipIdx.map item with
  | nil =>
    rw [List.map_eq_nil_iff.mp same]
    exact fun margin flush => ⟨margin, flush, rfl⟩
  | cons first items =>
    rw [same] at looped
    exact looped.locally

theorem gives_each (included : Renderer) {argument : Argument} {path : List String} {entries : List ι}
    {value : ι → Json} {body : List Element} {text : ι → String}
    (evaluated : ∀ margin : Margin, evaluate setting blocks argument { margin } state =
      (.ok (.place path (.array (entries.map value)), { margin }), state))
    (inside : ∀ entry (i : Nat), entries[i]? = some entry → ∀ locals,
      (renderElements setting included body ({ base := .place (path ++ [toString i]), locals } :: blocks)).Gives state
        (.ok (text entry))) :
    (renderElement setting included (.block ⟨.name "each", [argument], []⟩ [] false body none) blocks).Gives state
      (.ok (String.join (entries.map text))) := by
  have opened : renderElement setting included (.block ⟨.name "each", [argument], []⟩ [] false body none) blocks = (do
      let found ← evaluate setting blocks argument
      Render.part (·.enter false) (Helper.writeEach {
        name := "each", params := [found], hash := [], blocks, body := some (renderElements setting included body) })) := by
    have known : Helper.ofName? setting.host.functions "each" = some .each := Helper.ofName?_of_builtin? rfl _
    have run := (runs_of_ofName? known).block setting.context included blocks ⟨.name "each", [argument], []⟩ [] false
      body none rfl
    rw [show renderElement setting included _ blocks = _ from run, call_of_writtenName? rfl]
    simp only [evaluateAll, evaluateHash, pure_bind, bind_assoc]
    rfl
  rw [opened]
  apply Render.Gives.after evaluated
  exact (gives_writeEach rfl rfl rfl rfl inside).part false

end

/-! The turns of a conversation. -/

/-- A name in the body of a loop is a field of the item. -/
theorem lookup_field (context : Json) (path : List String) (locals : Option (Fields Json)) (name : String) :
    lookup context [{ base := .place path, locals }, {}] (.ofName name) =
      (follow context (path ++ [name])).map fun found =>
        match found with
        | some value => .place (path ++ [name]) value
        | none => .missing := rfl

theorem follow_turn {bindings : Fields Json} {history : List Turn}
    (stored : bindings.get? "messages" = some (Transcript.toJson history))
    (addressable : history.length ≤ 2 ^ 64) {i : Nat} {turn : Turn} (there : history[i]? = some turn) :
    follow (.object bindings) ["messages", toString i, "role"] = .ok (some (.string turn.role.name)) ∧
    follow (.object bindings) ["messages", toString i, "content"] = .ok (some (.string turn.content)) := by
  have inside : i < 0x10000000000000000 := Nat.lt_of_lt_of_le (List.getElem?_eq_some_iff.mp there).1 addressable
  have root : child? (.object bindings) "messages" = .ok (some (Transcript.toJson history)) := congrArg Except.ok stored
  have item : child? (Transcript.toJson history) (toString i) = .ok (some turn.toJson) := by
    simp only [Transcript.toJson, child?, index?_toString, if_pos inside, List.getElem?_map, there, Option.map_some]
  have role : child? turn.toJson "role" = .ok (some (.string turn.role.name)) := by
    simp [Turn.toJson, child?, Fields.ofList, Fields.get?_insert]
  have content : child? turn.toJson "content" = .ok (some (.string turn.content)) := by
    simp [Turn.toJson, child?, Fields.ofList]
  constructor
  · simp only [follow, root, item, role]
  · simp only [follow, root, item, content]

/-- Writes each turn of the conversation as a message. -/
def historyTemplate : String :=
  "\x7b\x7b#each messages\x7d\x7d\x7b\x7b#message role=role\x7d\x7d\x7b\x7bcontent\x7d\x7d\x7b\x7b/message\x7d\x7d\x7b\x7b/each\x7d\x7d"

def turnElement : Element :=
  .block ⟨.name "message", [], [("role", .path (.ofName "role"))]⟩ [] false
    [.output ⟨.path (.ofName "content"), [], []⟩] none

theorem read?_historyTemplate : read? historyTemplate =
    some [.block ⟨.name "each", [.path (.ofName "messages")], []⟩ [] false [turnElement] none] := by
  rw [read?_of_expand historyTemplate (by decide +kernel), historyTemplate]
  simp only [String.reduceToList]
  rfl

theorem gives_turnElement {setting : Setting} {blocks : List Block} {state : State} (included : Renderer) {turn : Turn}
    {rolePath contentPath : List String}
    (role : lookup setting.context blocks (.ofName "role") = .ok (.place rolePath (.string turn.role.name)))
    (content : lookup setting.context blocks (.ofName "content") = .ok (.place contentPath (.string turn.content))) :
    (renderElements setting included [turnElement] blocks).Gives state (.ok turn.tagged) := by
  have named (margin : Margin) : evaluate setting blocks (.path (.ofName "role")) { margin } state =
      (.ok (.place rolePath (.string turn.role.name), { margin }), state) := by
    rw [evaluate_path_apply, Option.getD_none, role]
    rfl
  have unnamed : Helper.ofName? setting.host.functions (Path.ofName "content").written = none :=
    (Helper.ofName?_of_unmarked (by decide +kernel) setting.host.functions).trans rfl
  have output : (renderElement setting included (.output ⟨.path (.ofName "content"), [], []⟩) blocks).Gives state
      (.ok turn.content) := by
    intro margin flush
    obtain ⟨after, ends, written⟩ := Render.Gives.emit turn.content margin flush
    refine ⟨after, ends, ?_⟩
    rw [renderElement, writeOutput_bare unnamed blocks rfl, show Progress.context { margin } setting = setting.context from rfl,
      content]
    exact written
  have body := gives_message included turn.role rfl named output.alone
  exact body.alone

theorem render_historyTemplate {host : Host} {state : State} {history : List Turn}
    (stored : state.bindings.get? "messages" = some (Transcript.toJson history))
    (addressable : history.length ≤ 2 ^ 64) :
    render host historyTemplate state = (.ok (Transcript.render history), state) := by
  let setting : Setting := ⟨host, .object state.bindings⟩
  have conversation (margin : Margin) : evaluate setting [{}] (.path (.ofName "messages")) { margin } state =
      (.ok (.place ["messages"] (.array (history.map Turn.toJson)), { margin }), state) := by
    rw [evaluate_path_apply, Option.getD_none, lookup_ofName, stored]
    rfl
  have turns : (renderElement setting (renderWithin setting (depthLimit - 1))
      (.block ⟨.name "each", [.path (.ofName "messages")], []⟩ [] false [turnElement] none) [{}]).Gives state
        (.ok (String.join (history.map Turn.tagged))) := by
    apply gives_each _ conversation
    intro turn i there locals
    obtain ⟨role, content⟩ := follow_turn stored addressable there
    have named : lookup setting.context ({ base := .place (["messages"] ++ [toString i]), locals } :: [{}])
        (.ofName "role") = .ok (.place ["messages", toString i, "role"] (.string turn.role.name)) := by
      rw [lookup_field, show follow setting.context (["messages"] ++ [toString i] ++ ["role"]) = _ from role]
      rfl
    have held : lookup setting.context ({ base := .place (["messages"] ++ [toString i]), locals } :: [{}])
        (.ofName "content") = .ok (.place ["messages", toString i, "content"] (.string turn.content)) := by
      rw [lookup_field, show follow setting.context (["messages"] ++ [toString i] ++ ["content"]) = _ from content]
      rfl
    exact gives_turnElement _ named held
  exact render_of_gives read?_historyTemplate turns.alone

end Template

namespace Kernel

/-- A function that has rendered its template asks its service once, for the turns of the text. -/
theorem exists_completion_of_render {kernel : Kernel} {invoke : Invoke} {definition : Definition} {state after : State}
    {template text : String} {selection : Selection} {service : Service}
    (settled : templateOf definition = .ok template) (found : kernel.serviceFor definition = .ok (selection, service))
    (rendered : Template.render (kernel.host invoke) template state = (.ok text, after))
    (running : after.cancelled = false) :
    ∃ completion : Completion,
      (kernel.execute invoke (.template definition) state).2.completions = after.completions ++ [completion] ∧
      completion.service = selection.service ∧ completion.turns = Transcript.extract text := by
  have ran : (kernel.execute invoke (.template definition) state).2 = (kernel.runTemplate invoke definition state).2 := rfl
  rw [ran, runTemplate_apply, settled, found]
  dsimp only
  rw [rendered]
  dsimp only
  rw [if_neg (by simp [running])]
  exact ⟨_, rfl, rfl, Transcript.extract_request text⟩

/-- A conversation that is stored in a variable is written by the template as its transcript, and nothing else
happens. So a function with this template asks its service for just this conversation, called from wherever,
if no turn closes itself, and only then. Places in lists are words of a machine, which no list outgrows. -/
theorem stored_history_survives (kernel : Kernel) {history : List Turn} (addressable : history.length ≤ 2 ^ 64)
    {state : State} (stored : state.bindings.get? "messages" = some (Transcript.toJson history)) :
    (∀ invoke, Template.render (kernel.host invoke) Template.historyTemplate state =
      (.ok (Transcript.render history), state)) ∧
    ∀ (definition : Definition) (selection : Selection) (service : Service),
      definition.format = .handlebars → definition.template = some Template.historyTemplate →
      kernel.serviceFor definition = .ok (selection, service) → state.cancelled = false →
      let asks (after : State) : Prop := ∃ completion : Completion,
        after.completions = state.completions ++ [completion] ∧ completion.service = selection.service ∧
        (completion.turns = history ↔ ∀ turn ∈ history, ¬ turn.role.closingTag <:+: turn.content.toList)
      (∀ invoke, asks (kernel.execute invoke (.template definition) state).2) ∧
      ∀ bindings, definition.bind none state.bindings = .ok bindings →
        asks (kernel.run (.template definition) state).2 := by
  have written (state : State) (stored : state.bindings.get? "messages" = some (Transcript.toJson history))
      (invoke : Invoke) : Template.render (kernel.host invoke) Template.historyTemplate state =
        (.ok (Transcript.render history), state) :=
    Template.render_historyTemplate stored addressable
  refine ⟨written state stored, ?_⟩
  intro definition selection service usual template found running asks
  have settled : templateOf definition = .ok Template.historyTemplate := by
    simp only [templateOf, usual, template]
  have asked (current : State) (stored : current.bindings.get? "messages" = some (Transcript.toJson history))
      (same : current.completions = state.completions) (running : current.cancelled = false) (invoke : Invoke) :
      asks (kernel.execute invoke (.template definition) current).2 := by
    obtain ⟨completion, asked, position, turns⟩ :=
      exists_completion_of_render settled found (written current stored invoke) running
    refine ⟨completion, by rw [asked, same], position, ?_⟩
    rw [turns]
    exact Transcript.extract_render_iff history
  constructor
  · exact asked state stored rfl running
  · intro bindings bound
    have kept : bindings.get? "messages" = some (Transcript.toJson history) := by
      rw [Definition.eq_bindAll_of_bind bound, Definition.get?_bindAll, Definition.valueBound?, stored]
      simp
    have begun : kernel.run (.template definition) state =
        kernel.execute (kernel.invokeWithin (depthLimit - 1)) (.template definition) { state with bindings } := by
      unfold run
      rw [runWithin_apply, show (Function.template definition).definition.bind none state.bindings = _ from bound]
      dsimp only
      rw [if_neg (by simp [running])]
      rfl
    rw [begun]
    exact asked { state with bindings } kept rfl running _

def resuming : Definition := { group := "Chat", name := "Resume", template := some Template.historyTemplate }

/-- Braces, line breaks, tags of another role and the tag that opens a turn are all just content. -/
theorem stored_history_survives_resuming :
    let echo : Service := .inProcess "m" fun _ _ => .ok "done"
    let kernel : Kernel := ⟨[.template resuming], [echo], some 0, none⟩
    let history : List Turn := [⟨.system, "Be \x7b\x7bbrief\x7d\x7d.\n"⟩, ⟨.user, "<user~></system~>"⟩, ⟨.assistant, ""⟩]
    let state : State := { bindings := Fields.insert [("name", .string "Ada")] "messages" (Transcript.toJson history) }
    history.length ≤ 2 ^ 64 ∧ state.bindings.get? "messages" = some (Transcript.toJson history) ∧
    (kernel.render Template.historyTemplate state).1 = .ok (Transcript.render history) ∧
    ∃ completion : Completion, (kernel.run (.template resuming) state).2.completions = [completion] ∧
      completion.turns = history := by
  intro echo kernel history state
  have addressable : history.length ≤ 2 ^ 64 := by decide
  have stored : state.bindings.get? "messages" = some (Transcript.toJson history) := Fields.get?_insert_self ..
  obtain ⟨rendered, submitted⟩ := stored_history_survives kernel addressable stored
  obtain ⟨completion, asked, -, turns⟩ := (submitted resuming ⟨0, none⟩ echo rfl rfl rfl rfl).2 _ rfl
  have unclosed : ∀ turn ∈ history, ¬ turn.role.closingTag <:+: turn.content.toList := by decide +kernel
  exact ⟨addressable, stored, congrArg Prod.fst (rendered kernel.invoke), completion, asked, turns.mpr unclosed⟩

end Kernel

end PromptKernel
