import PromptKernel.Proofs.FieldUpdates
import PromptKernel.Run

/-! What is sent to a remote service. A completion is asked for with one request at most, whose address is the one
of the service without the slashes at its end, and whose document says which model is meant and what was said so
far, whatever else the parameters hold. The key goes into the header alone. -/

namespace PromptKernel

namespace Text

theorem dropEndWhile_append {p : Char → Bool} {tail : List Char} (dropped : ∀ c ∈ tail, p c = true) (text : List Char) :
    dropEndWhile p (text ++ tail) = dropEndWhile p text := by
  have reversed : ∀ c ∈ tail.reverse, p c = true := fun c member => dropped c (List.mem_reverse.mp member)
  unfold dropEndWhile
  rw [List.reverse_append, List.dropWhile_append_of_pos reversed]

theorem exists_of_dropEndWhile (p : Char → Bool) (text : List Char) : ∃ tail,
    text = dropEndWhile p text ++ tail ∧ (∀ c ∈ tail, p c = true) ∧
      ∀ c ∈ (dropEndWhile p text).getLast?, p c = false := by
  refine ⟨(text.reverse.takeWhile p).reverse, ?_, ?_, ?_⟩
  · unfold dropEndWhile
    rw [← List.reverse_append, List.takeWhile_append_dropWhile, List.reverse_reverse]
  · intro c member
    exact List.all_eq_true.mp List.all_takeWhile c (List.mem_reverse.mp member)
  · intro c last
    rw [dropEndWhile, List.getLast?_reverse] at last
    have stopped := List.head?_dropWhile_not p text.reverse
    rwa [Option.mem_def.mp last] at stopped

end Text

namespace Transcript

theorem ofJson?_toJson (turns : List Turn) : ofJson? (toJson turns) = some turns := by
  have read (turn : Turn) : Turn.ofJson? turn.toJson = some turn := by
    have role : turn.toJson.member? "role" = some (.string turn.role.name) := by
      simp [Turn.toJson, Json.member?, Fields.ofList, Fields.get?_insert]
    have content : turn.toJson.member? "content" = some (.string turn.content) := by
      simp [Turn.toJson, Json.member?, Fields.ofList]
    have named : Role.ofName? turn.role.name = some turn.role := by cases turn.role <;> decide
    simp [Turn.ofJson?, role, content, Json.string?, named]
  have together : Turn.ofJson? ∘ Turn.toJson = pure := funext read
  change (turns.map Turn.toJson).mapM Turn.ofJson? = some turns
  rw [List.mapM_map, together, List.mapM_pure]
  simp

end Transcript

namespace ChatApi

/-- The address without the slashes at its end, in front of what is asked of it. -/
theorem exists_endpoint (api : ChatApi) : ∃ stem slashes : String, api.baseUrl = stem ++ slashes ∧
    (∀ c ∈ slashes.toList, c = '/') ∧ stem.toList.getLast? ≠ some '/' ∧ api.endpoint = stem ++ "/chat/completions" := by
  obtain ⟨tail, whole, slashes, ends⟩ := Text.exists_of_dropEndWhile (· == '/') api.baseUrl.toList
  refine ⟨String.ofList (Text.dropEndWhile (· == '/') api.baseUrl.toList), String.ofList tail, ?_, ?_, ?_, rfl⟩
  · rw [← String.ofList_append, ← whole, String.ofList_toList]
  · intro c member
    rw [String.toList_ofList] at member
    exact beq_iff_eq.mp (slashes c member)
  · intro last
    rw [String.toList_ofList] at last
    exact absurd (ends '/' last) (by decide)

theorem endpoint_append_slashes (api : ChatApi) (stem : String) (n : Nat) :
    { api with baseUrl := stem ++ String.ofList (List.replicate n '/') }.endpoint = { api with baseUrl := stem }.endpoint := by
  have slashes : ∀ c ∈ List.replicate n '/', (c == '/') = true := fun c member =>
    beq_iff_eq.mpr (List.eq_of_mem_replicate member)
  simp only [endpoint, String.toList_append, String.toList_ofList, Text.dropEndWhile_append slashes]

/-- What the document of a request says. The parameters of its two own names do not count. -/
structure Says (api : ChatApi) (turns : List Turn) (parameters body : Fields Json) : Prop where
  model : body.get? "model" = some (.string api.modelId)
  messages : ∃ messages, body.get? "messages" = some messages ∧ Transcript.ofJson? messages = some turns
  others : ∀ key, key ≠ "model" → key ≠ "messages" → body.get? key = parameters.get? key
  ordered : parameters.Ordered → body.Ordered

theorem says_requestBody (api : ChatApi) (turns : List Turn) (parameters : Fields Json) :
    api.Says turns parameters (api.requestBody turns parameters) where
  model := by simp [requestBody, Fields.get?_insert]
  messages := ⟨Transcript.toJson turns, Fields.get?_insert_self .., Transcript.ofJson?_toJson turns⟩
  others := by
    intro key other another
    rw [requestBody, Fields.get?_insert_of_ne (Ne.symm another), Fields.get?_insert_of_ne (Ne.symm other)]
  ordered ordered := (ordered.insert "model" _).insert "messages" _

theorem request?_eq_some_iff {api : ChatApi} {turns : List Turn} {parameters : Fields Json} {request : Http.Request} :
    api.request? turns parameters = some request ↔ api.apiKey.all Http.isSendable = true ∧
      request = ⟨api.endpoint, api.apiKey, .object (api.requestBody turns parameters)⟩ := by
  unfold request?
  split
  next sendable => simp [sendable, eq_comm]
  next refused => simp [refused]

/-- Whatever the key is, the address and the document are those of the service. -/
theorem request?_of_isSome {turns : List Turn} {parameters : Fields Json} (api : ChatApi) (key : Option String)
    (sendable : ({ api with apiKey := key }.request? turns parameters).isSome) :
    { api with apiKey := key }.request? turns parameters =
      some ⟨api.endpoint, key, .object (api.requestBody turns parameters)⟩ := by
  obtain ⟨request, prepared⟩ := Option.isSome_iff_exists.mp sendable
  obtain ⟨-, same⟩ := request?_eq_some_iff.mp prepared
  exact prepared.trans (congrArg some same)

/-- One request at most arrives for a completion. It goes to the address of the service, however many slashes
that ends with, and says no more than the model, the turns and the parameters. Services with different keys send
the same but for the key, and look the same in listings. -/
theorem requests_carry_turns (api : ChatApi) (network : Http.Network) (completion : Completion) (state : State) :
    let sends (api : ChatApi) := api.request? completion.turns completion.parameters
    let after := (Run.complete (.remote api network) completion state).2
    (after.arrived = state.arrived ∨
      ∃ request, sends api = some request ∧ after.arrived = state.arrived ++ [request]) ∧
    (∀ request, sends api = some request →
      (∃ stem slashes : String, api.baseUrl = stem ++ slashes ∧ (∀ c ∈ slashes.toList, c = '/') ∧
        stem.toList.getLast? ≠ some '/' ∧ request.url = stem ++ "/chat/completions") ∧
      request.bearer = api.apiKey ∧
      ∃ body, request.body = .object body ∧ api.Says completion.turns completion.parameters body) ∧
    (∀ stem m n, sends { api with baseUrl := stem ++ String.ofList (List.replicate m '/') } =
      sends { api with baseUrl := stem ++ String.ofList (List.replicate n '/') }) ∧
    ∀ first second : Option String, (sends { api with apiKey := first }).isSome →
      (sends { api with apiKey := second }).isSome →
      (∃ url body, sends { api with apiKey := first } = some ⟨url, first, body⟩ ∧
        sends { api with apiKey := second } = some ⟨url, second, body⟩) ∧
      { api with apiKey := first }.listing = { api with apiKey := second }.listing := by
  intro sends after
  refine ⟨?_, ?_, ?_, ?_⟩
  · have arrivals : after.arrived = state.arrived ++
        ((Service.remote api network).complete state.completions state.arrived completion).2.toList := by
      simp only [after, Run.complete_apply]
    rw [arrivals, Service.complete]
    cases prepared : api.request? completion.turns completion.parameters with
    | none => exact .inl (List.append_nil _)
    | some request =>
      dsimp only
      cases network state.arrived request with
      | none => exact .inl (List.append_nil _)
      | some response => exact .inr ⟨request, prepared, rfl⟩
  · intro request prepared
    obtain ⟨-, rfl⟩ := request?_eq_some_iff.mp prepared
    exact ⟨api.exists_endpoint, rfl, _, rfl, api.says_requestBody completion.turns completion.parameters⟩
  · intro stem m n
    have same := (api.endpoint_append_slashes stem m).trans (api.endpoint_append_slashes stem n).symm
    simp only [sends, request?, same]
    rfl
  · intro first second sendable otherSendable
    have prepared := request?_of_isSome api first sendable
    have otherPrepared := request?_of_isSome api second otherSendable
    exact ⟨⟨_, _, prepared, otherPrepared⟩, rfl⟩

/-- A service of its own address, asked with parameters that try to speak for the model and the user. -/
theorem requests_carry_turns_overwritten :
    let api : ChatApi := { modelId := "m", baseUrl := "http://host/v1//", apiKey := some "secret" }
    let network : Http.Network := fun _ _ => some ⟨200, "\x7b\x7d"⟩
    let parameters : Fields Json := [("messages", .null), ("model", .string "other"), ("seed", .integer 7)]
    let completion : Completion := ⟨0, "m", [⟨.user, "Hi"⟩], parameters⟩
    (Run.complete (.remote api network) completion {}).2.arrived.length = 1 ∧
    ∃ request, api.request? completion.turns parameters = some request ∧
      (∃ body, request.body = .object body ∧ api.Says completion.turns parameters body) ∧
      ∃ url body, { api with apiKey := some "other secret" }.request? completion.turns parameters =
        some ⟨url, some "other secret", body⟩ := by
  intro api network parameters completion
  obtain ⟨-, sent, -, alike⟩ := requests_carry_turns api network completion {}
  obtain ⟨request, prepared⟩ : ∃ request, api.request? completion.turns parameters = some request := ⟨_, rfl⟩
  obtain ⟨⟨url, body, -, other⟩, -⟩ := alike (some "secret") (some "other secret") (by decide) (by decide)
  exact ⟨rfl, request, prepared, (sent request prepared).2.2, url, body, other⟩

end ChatApi

end PromptKernel
