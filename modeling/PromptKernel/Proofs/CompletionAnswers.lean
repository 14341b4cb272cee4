import PromptKernel.Proofs.Traversals
import PromptKernel.Proofs.WrittenJson
import PromptKernel.Service.Basic

/-! Answers of remote services. What is asked for is the text of the first choice, but every choice has to be one.
Fields by other names may stand anywhere, and an answer without success is reported as it came. -/

namespace PromptKernel

theorem bind_eq_of_rel {R : α → β → Prop} {f : α → Option γ} {g : β → Option γ} {first : Option α} {second : Option β}
    (rel : Option.Rel R first second) (same : ∀ a b, R a b → f a = g b) : first.bind f = second.bind g := by
  cases rel with
  | none => rfl
  | some value => exact same _ _ value

namespace RawJson

/-- Members of an object that grew by fields of other names than the known one, whose own value may have grown. -/
inductive AddsMembers (known : String) (inside : RawJson → RawJson → Prop) : Members → Members → Prop
  | nil : AddsMembers known inside [] []
  | added {name : String} {value : RawJson} {members grown : Members} (other : name ≠ known)
    (rest : AddsMembers known inside members grown) :
    AddsMembers known inside members ((some name, value) :: grown)
  | known {before after : RawJson} {members grown : Members} (value : inside before after)
    (rest : AddsMembers known inside members grown) :
    AddsMembers known inside ((some known, before) :: members) ((some known, after) :: grown)
  | kept {member : Option String × RawJson} {members grown : Members}
    (other : member.1 ≠ some known) (rest : AddsMembers known inside members grown) :
    AddsMembers known inside (member :: members) (member :: grown)

/-- An object that grew, or anything as it was. -/
inductive Adds (known : String) (inside : RawJson → RawJson → Prop) : RawJson → RawJson → Prop
  | object {members grown : Members} (more : AddsMembers known inside members grown) :
    Adds known inside (object members) (object grown)
  | same (document : RawJson) : Adds known inside document document

theorem field?_other {name key : String} (other : key ≠ name) (value : RawJson) (members : Members) :
    field? name ((some key, value) :: members) = field? name members := by
  rw [field?]
  cases field? name members with
  | none => rfl
  | some found => cases found <;> simp [other]

theorem field?_same (name : String) (value : RawJson) (members : Members) :
    field? name ((some name, value) :: members) =
      (field? name members).bind fun found => if found.isNone then some (some value) else none := by
  rw [field?]
  cases field? name members with
  | none => rfl
  | some found => cases found <;> simp

theorem IsTree.field? {members : Members} (tree : (RawJson.object members).IsTree) (name : String) :
    field? name members = some (members.lookup (some name)) := by
  cases tree with
  | object named distinct inside =>
    clear inside
    induction members with
    | nil => rfl
    | cons member members ih =>
      obtain ⟨⟨key, same⟩, later⟩ := List.forall_mem_cons.mp named
      obtain ⟨_, value⟩ := member
      cases same
      obtain ⟨first, distinct⟩ := List.nodup_cons.mp distinct
      by_cases same : key = name
      · subst same
        have missing : members.lookup (some key) = none := by
          rw [List.lookup_eq_none_iff]
          intro member inside
          rw [bne_iff_ne]
          exact fun same => first (List.mem_map.mpr ⟨member, inside, same.symm⟩)
        rw [field?_same, ih later distinct, missing, List.lookup_cons_self]
        rfl
      · have apart : (some name == some key) = Bool.false := beq_eq_false_iff_ne.mpr fun same' =>
          same (Option.some.inj same').symm
        rw [field?_other same, ih later distinct, List.lookup_cons, apart]

theorem IsTree.lookup {members : Members} (tree : (RawJson.object members).IsTree) {key : Option String} {value : RawJson}
    (there : members.lookup key = some value) : IsTree value := by
  obtain ⟨before, behind, rfl, -⟩ := List.lookup_eq_some_iff.mp there
  cases tree with
  | object _ _ inside => exact inside (key, value) (by simp)

theorem AddsMembers.rel_field? {known : String} {inside : RawJson → RawJson → Prop} {members grown : Members}
    (more : AddsMembers known inside members grown) :
    Option.Rel (Option.Rel inside) (field? known members) (field? known grown) := by
  induction more with
  | nil => exact .some .none
  | added other _ ih => rwa [field?_other other]
  | known value _ ih =>
    rw [field?_same, field?_same]
    generalize RawJson.field? known _ = first at ih
    generalize RawJson.field? known _ = second at ih
    cases ih with
    | none => exact .none
    | some found =>
      cases found with
      | none => exact .some (.some value)
      | some _ => exact .none
  | @kept member _ _ other _ ih =>
    obtain ⟨key, value⟩ := member
    cases key with
    | none => exact .none
    | some key =>
      have other : key ≠ known := fun same => other (congrArg some same)
      rwa [field?_other other, field?_other other]

end RawJson

namespace ChatApi

/-! Completions as trees. -/

inductive IsContent : Option RawJson → String → Prop
  | absent : IsContent none ""
  | null : IsContent (some .null) ""
  | string (text : String) : IsContent (some (.string (some text))) text

def IsMessage (message : RawJson) (text : String) : Prop :=
  ∃ members, message = .object members ∧ IsContent (members.lookup (some "content")) text

def IsChoice (choice : RawJson) (text : String) : Prop :=
  ∃ members message, choice = .object members ∧ members.lookup (some "message") = some message ∧ IsMessage message text

/-- An answer with these texts for its choices. -/
def IsCompletion (answer : RawJson) (texts : List String) : Prop :=
  ∃ members choices, answer = .object members ∧ members.lookup (some "choices") = some (.array choices) ∧
    List.Forall₂ IsChoice choices texts

/-- Neither the choice nor its message is a list. -/
structure ChoiceNamesFields (choice : RawJson) : Prop where
  named : ∀ items, choice ≠ .array items
  message : ∀ (members : RawJson.Members) items, choice = .object members →
    members.lookup (some "message") ≠ some (.array items)

/-- No list stands in the place of the answer, of a choice or of a message. -/
structure NamesFields (answer : RawJson) : Prop where
  named : ∀ items, answer ≠ .array items
  choices : ∀ (members : RawJson.Members) choices, answer = .object members →
    members.lookup (some "choices") = some (.array choices) → ∀ choice ∈ choices, ChoiceNamesFields choice

theorem content?_eq_some_iff {content : Option RawJson} {text : String}
    (tree : ∀ value, content = some value → value.IsTree) : content? content = some text ↔ IsContent content text := by
  constructor
  · intro read
    unfold content? at read
    split at read
    next => cases read; exact .absent
    next => cases read; exact .null
    next => cases read; exact .string text
    next => cases read
  · intro written
    cases written <;> rfl

theorem message?_eq_some_iff {message : RawJson} {text : String} (tree : message.IsTree)
    (named : ∀ items, message ≠ .array items) : message? message = some text ↔ IsMessage message text := by
  cases message with
  | object members =>
    have read : message? (.object members) = content? (members.lookup (some "content")) := by
      rw [message?, tree.field?, Option.bind_some]
    rw [read, content?_eq_some_iff fun value there => tree.lookup there]
    simp [IsMessage]
  | array items => exact absurd rfl (named items)
  | null | bool | number | string => simp [message?, IsMessage]

theorem choice?_eq_some_iff {choice : RawJson} {text : String} (tree : choice.IsTree)
    (named : ChoiceNamesFields choice) : choice? choice = some text ↔ IsChoice choice text := by
  cases choice with
  | object members =>
    have read : choice? (.object members) = (members.lookup (some "message")).bind message? := by
      rw [choice?, tree.field?]
      rfl
    rw [read, Option.bind_eq_some_iff]
    have each : ∀ message, members.lookup (some "message") = some message →
        (message? message = some text ↔ IsMessage message text) := by
      intro message there
      apply message?_eq_some_iff (tree.lookup there)
      rintro items rfl
      exact named.message members items rfl there
    constructor
    · rintro ⟨message, there, text⟩
      exact ⟨members, message, rfl, there, (each message there).mp text⟩
    · rintro ⟨_, message, ⟨⟩, there, text⟩
      exact ⟨message, there, (each message there).mpr text⟩
  | array items => exact absurd rfl (named.named items)
  | null | bool | number | string => simp [choice?, IsChoice]

theorem choices?_eq_some_iff {answer : RawJson} {texts : List String} (tree : answer.IsTree)
    (named : NamesFields answer) : choices? answer = some texts ↔ IsCompletion answer texts := by
  cases answer with
  | object members =>
    have read : choices? (.object members) = (members.lookup (some "choices")).bind choices?.items? := by
      rw [choices?, tree.field?]
      rfl
    rw [read, Option.bind_eq_some_iff]
    have each (choices : List RawJson) (there : members.lookup (some "choices") = some (.array choices)) :
        choices.mapM choice? = some texts ↔ List.Forall₂ IsChoice choices texts := by
      have inside : ∀ choice ∈ choices, choice.IsTree := by
        cases tree.lookup there with
        | array inside => exact inside
      have fields := named.choices members choices rfl there
      rw [mapM_eq_some_iff]
      apply forall₂_congr_mem
      intro choice member text
      exact choice?_eq_some_iff (inside choice member) (fields choice member)
    constructor
    · rintro ⟨listed, there, read⟩
      cases listed with
      | array choices => exact ⟨members, choices, rfl, there, (each choices there).mp read⟩
      | null | bool | number | string | object => cases read
    · rintro ⟨_, choices, ⟨⟩, there, texts⟩
      exact ⟨.array choices, there, (each choices there).mpr texts⟩
  | array items => exact absurd rfl (named.named items)
  | null | bool | number | string => simp [choices?, IsCompletion]

/-! Answers that grew. -/

def AddsToMessage : RawJson → RawJson → Prop := RawJson.Adds "content" Eq

def AddsToChoice : RawJson → RawJson → Prop := RawJson.Adds "message" AddsToMessage

inductive AddsToChoices : RawJson → RawJson → Prop
  | array {choices grown : List RawJson} (each : List.Forall₂ AddsToChoice choices grown) :
    AddsToChoices (.array choices) (.array grown)
  | same (document : RawJson) : AddsToChoices document document

/-- Fields of any other names were added to the answer, to some of its choices and to some of their messages. -/
def AddsToAnswer : RawJson → RawJson → Prop := RawJson.Adds "choices" AddsToChoices

theorem message?_of_adds {message grown : RawJson} (more : AddsToMessage message grown) :
    message? message = message? grown := by
  cases more with
  | same => rfl
  | object more =>
    rw [message?, message?]
    apply bind_eq_of_rel more.rel_field?
    rintro before after (same | -)
    · rw [same]
    · rfl

theorem choice?_of_adds {choice grown : RawJson} (more : AddsToChoice choice grown) :
    choice? choice = choice? grown := by
  cases more with
  | same => rfl
  | object more =>
    rw [choice?, choice?]
    apply bind_eq_of_rel more.rel_field?
    intro before after rel
    exact bind_eq_of_rel rel fun _ _ => message?_of_adds

theorem choices?_of_adds {answer grown : RawJson} (more : AddsToAnswer answer grown) :
    choices? answer = choices? grown := by
  have listed (before after : RawJson) (more : AddsToChoices before after) :
      choices?.items? before = choices?.items? after := by
    cases more with
    | same => rfl
    | @array choices grown each =>
      change choices.mapM choice? = grown.mapM choice?
      induction each with
      | nil => rfl
      | cons first _ ih => rw [List.mapM_cons, List.mapM_cons, choice?_of_adds first, ih]
  cases more with
  | same => rfl
  | object more =>
    rw [choices?, choices?]
    apply bind_eq_of_rel more.rel_field?
    intro before after rel
    exact bind_eq_of_rel rel listed

/-! Outcomes. -/

theorem outcome_of_failure {response : Http.Response} (failed : ¬ (200 ≤ response.status ∧ response.status < 300)) :
    outcome response = .error (.reported (failureText response)) := by
  have unsuccessful : ¬ response.isSuccess = true := by simpa [Http.Response.isSuccess] using failed
  rw [outcome, if_neg unsuccessful]

theorem outcome_of_success {status : Nat} {body : String} {answer : RawJson} (succeeded : 200 ≤ status ∧ status < 300)
    (written : answer.IsWritten body) : outcome ⟨status, body⟩ = match choices? answer with
      | none => .error .undecodable
      | some [] => .error (.reported "chat completion has no choices")
      | some (text :: _) => .ok text := by
  have successful : (⟨status, body⟩ : Http.Response).isSuccess = true := by
    simpa [Http.Response.isSuccess] using succeeded
  unfold outcome
  rw [if_pos successful]
  generalize read : (RawJson.parse? body).bind choices? = texts
  obtain rfl : choices? answer = texts := by rw [← read, written.parse?, Option.bind_some]
  rfl

/-- What becomes of an answer from a server. One without success is reported with all of its body. A tree in a
successful one gives the text of its first choice if all of its choices are in order, and fails in one of two ways
otherwise. Fields by other names make no difference. -/
theorem outcome_of_response :
    (∀ (api : ChatApi) (network : Http.Network) (earlier : List Completion) (arrived : List Http.Request)
      (completion : Completion) (request : Http.Request) (response : Http.Response),
      api.request? completion.turns completion.parameters = some request → network arrived request = some response →
      ((Service.remote api network).complete earlier arrived completion).1 = outcome response) ∧
    (∀ response : Http.Response, ¬ (200 ≤ response.status ∧ response.status < 300) →
      outcome response = .error (.reported
        ("chat completion failed with status " ++ Http.statusText response.status ++ ": " ++ response.body))) ∧
    ∀ (status : Nat) (body : String) (answer : RawJson), 200 ≤ status → status < 300 → answer.IsWritten body →
      (answer.IsTree → NamesFields answer →
        (∀ text, outcome ⟨status, body⟩ = .ok text ↔ ∃ others, IsCompletion answer (text :: others)) ∧
        (outcome ⟨status, body⟩ = .error (.reported "chat completion has no choices") ↔ IsCompletion answer []) ∧
        (outcome ⟨status, body⟩ = .error .undecodable ↔ ¬ ∃ texts, IsCompletion answer texts)) ∧
      ∀ (longer : String) (grown : RawJson), grown.IsWritten longer → AddsToAnswer answer grown →
        outcome ⟨status, longer⟩ = outcome ⟨status, body⟩ := by
  refine ⟨?_, fun response => outcome_of_failure, ?_⟩
  · intro api network earlier arrived completion request response sent answered
    simp only [Service.complete, sent, answered]
  intro status body answer least most written
  constructor
  · intro tree named
    rw [outcome_of_success ⟨least, most⟩ written]
    have each (texts : List String) := @choices?_eq_some_iff answer texts tree named
    cases read : choices? answer with
    | none =>
      simp only [read, reduceCtorEq, false_iff] at each
      simp [each]
    | some texts =>
      have only (others : List String) : IsCompletion answer others ↔ texts = others := by
        rw [← each, read, Option.some.injEq]
      cases texts <;> simp [only]
  · intro longer grown writtenLonger more
    rw [outcome_of_success ⟨least, most⟩ written, outcome_of_success ⟨least, most⟩ writtenLonger,
      choices?_of_adds more]

/-- One choice, which says hello. -/
def greetingChoices : RawJson :=
  .array [.object [(some "message", .object [(some "content", .string (some "Hello"))])]]

def greeting : RawJson := .object [(some "choices", greetingChoices)]

def greetingText : String := "\x7b\"choices\":[\x7b\"message\":\x7b\"content\":\"Hello\"\x7d\x7d]\x7d"

theorem isWritten_greeting : greeting.IsWritten greetingText := by
  have named (name : String)
      (plain : (name.toList.all fun c => c ≠ '"' ∧ c ≠ '\\' ∧ 32 ≤ c.toNat) = true) :
      RawJson.IsInside name.toList name.toList :=
    RawJson.isInside_of_plain fun c member => of_decide_eq_true (List.all_eq_true.mp plain c member)
  have content := RawJson.IsText.string (named "Hello" (by decide))
  have message := RawJson.IsText.object
    (.single (.mk RawJson.areBlank_nil (named "content" (by decide)) RawJson.areBlank_nil content.spaced))
  have choice := RawJson.IsText.object
    (.single (.mk RawJson.areBlank_nil (named "message" (by decide)) RawJson.areBlank_nil message.spaced))
  have choices := RawJson.IsText.array (.single choice.spaced)
  have answer := RawJson.IsText.object
    (.single (.mk RawJson.areBlank_nil (named "choices" (by decide)) RawJson.areBlank_nil choices.spaced))
  exact answer.spaced

theorem isTree_greetingChoices : greetingChoices.IsTree := by
  have object {name : String} {value : RawJson} (tree : value.IsTree) :
      (RawJson.object [(some name, value)]).IsTree := by
    refine .object ?_ ?_ (List.forall_mem_singleton.mpr tree)
    · exact List.forall_mem_singleton.mpr ⟨name, rfl⟩
    · simp
  refine .array (List.forall_mem_singleton.mpr ?_)
  exact object (object (.string "Hello"))

theorem outcome_of_response_greeting :
    ((Service.remote (ofModel "gpt-4") fun _ _ => some ⟨200, greetingText⟩).complete [] [] ⟨0, "gpt-4", [], []⟩).1 =
      .ok "Hello" ∧
    outcome ⟨404, "gone"⟩ = .error (.reported "chat completion failed with status 404 Not Found: gone") ∧
    ∃ longer : String, (RawJson.object [(some "id", .number), (some "choices", greetingChoices)]).IsWritten longer ∧
      outcome ⟨200, longer⟩ = .ok "Hello" := by
  obtain ⟨answered, failed, succeeded⟩ := outcome_of_response
  obtain ⟨outcomes, added⟩ := succeeded 200 greetingText greeting (by decide) (by decide) isWritten_greeting
  have tree : greeting.IsTree :=
    .object (by simp) (by simp) (List.forall_mem_singleton.mpr isTree_greetingChoices)
  have named : NamesFields greeting := by
    constructor
    · exact nofun
    · rintro members choices ⟨⟩ ⟨⟩
      refine List.forall_mem_singleton.mpr ⟨nofun, ?_⟩
      rintro members items ⟨⟩
      exact nofun
  have completion : IsCompletion greeting ["Hello"] :=
    ⟨_, _, rfl, rfl, .cons ⟨_, _, rfl, rfl, _, rfl, .string "Hello"⟩ .nil⟩
  have hello : outcome ⟨200, greetingText⟩ = .ok "Hello" := ((outcomes tree named).1 "Hello").mpr ⟨[], completion⟩
  refine ⟨?_, failed ⟨404, "gone"⟩ (by decide), ?_⟩
  · rw [answered (ofModel "gpt-4") (fun _ _ => some ⟨200, greetingText⟩) [] [] ⟨0, "gpt-4", [], []⟩ _ _ rfl rfl, hello]
  · have grown : (RawJson.object [(some "id", .number), (some "choices", greetingChoices)]).IsTree := by
      refine .object (by simp) (by simp) ?_
      exact List.forall_mem_cons.mpr ⟨.number, List.forall_mem_singleton.mpr isTree_greetingChoices⟩
    obtain ⟨longer, written⟩ := grown.exists_written
    have more : AddsToAnswer greeting (.object [(some "id", .number), (some "choices", greetingChoices)]) :=
      .object (.added (by decide) (.known (.same _) .nil))
    exact ⟨longer, written, by rw [added longer _ written more, hello]⟩

end ChatApi

end PromptKernel
