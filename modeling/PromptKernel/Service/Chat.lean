import PromptKernel.Error
import PromptKernel.Json.Raw
import PromptKernel.Service.Http
import PromptKernel.Text.Blank
import PromptKernel.Text.Listing

/-! Remote chat services. A conversation is posted as one document, and the completion is taken
from the first choice in the answer. -/

namespace PromptKernel

structure ChatApi where
  modelId : String
  baseUrl : String
  apiKey : Option String := none

namespace ChatApi

def defaultUrl : String := "https://api.openai.com/v1"

def ofModel (modelId : String) : ChatApi := { modelId, baseUrl := defaultUrl }

/-- Where completions are posted to. Slashes at the end of the address do not count. -/
def endpoint (api : ChatApi) : String :=
  String.ofList (Text.dropEndWhile (· == '/') api.baseUrl.toList) ++ "/chat/completions"

/-- The document of a request. The model and the messages win over parameters of these names. -/
def requestBody (api : ChatApi) (turns : List Turn) (parameters : Fields Json) : Fields Json :=
  (parameters.insert "model" (.string api.modelId)).insert "messages" (Transcript.toJson turns)

/-- The request for a completion. A key that cannot be sent allows none. -/
def request? (api : ChatApi) (turns : List Turn) (parameters : Fields Json) :
    Option Http.Request :=
  if api.apiKey.all Http.isSendable then
    some ⟨api.endpoint, api.apiKey, .object (api.requestBody turns parameters)⟩
  else none

/-- The text of a message, which may be absent. -/
def content? : Option RawJson → Option String
  | none => some ""
  | some .null => some ""
  | some (.string text) => text
  | some _ => none

/-- Records come with named fields or as the list of their fields. -/
def message? : RawJson → Option String
  | .object members => (RawJson.field? "content" members).bind content?
  | .array [] => content? none
  | .array [content] => content? (some content)
  | _ => none

def choice? : RawJson → Option String
  | .object members => (RawJson.field? "message" members).bind (·.bind message?)
  | .array [message] => message? message
  | _ => none

/-- The texts of all choices. One that cannot be read spoils the whole answer. -/
def choices? : RawJson → Option (List String)
  | .object members => (RawJson.field? "choices" members).bind (·.bind items?)
  | .array [choices] => items? choices
  | _ => none
where
  items? : RawJson → Option (List String)
    | .array items => items.mapM choice?
    | _ => none

def failureText (response : Http.Response) : String :=
  "chat completion failed with status " ++ Http.statusText response.status ++ ": " ++ response.body

def outcome (response : Http.Response) : Except ServiceFault String :=
  if response.isSuccess then
    match (RawJson.parse? response.body).bind choices? with
    | none => .error .undecodable
    | some [] => .error (.reported "chat completion has no choices")
    | some (text :: _) => .ok text
  else .error (.reported (failureText response))

/-- The service as a listing, which never shows the key. -/
def listing (api : ChatApi) : String :=
  Listing.record "OpenAiChatService" [
    ("model_id", Text.quoted api.modelId), ("base_url", Text.quoted api.baseUrl),
    ("api_key", Text.quoted "<REDACTED>")]

end ChatApi

end PromptKernel
