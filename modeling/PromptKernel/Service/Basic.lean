import PromptKernel.Service.Chat

/-! Backend services, which complete conversations. A service either runs in the same process or
is reached over a network. -/

namespace PromptKernel

structure Completion where
  /-- The position of the service. -/
  service : Nat
  modelId : String
  turns : List Turn
  parameters : Fields Json

inductive Service
  /-- Replies on the grounds of what it was asked now and of all that was asked before, or reports
  why it does not. -/
  | inProcess (modelId : String) (reply : List Completion → Completion → Except String String)
  | remote (api : ChatApi) (network : Http.Network)

namespace Service

def modelId : Service → String
  | inProcess modelId _ => modelId
  | remote api _ => api.modelId

def isRemote : Service → Bool
  | inProcess .. => false
  | remote .. => true

/-- What comes of a completion: the reply, and the request that arrived for it, if any. -/
def complete (service : Service) (earlier : List Completion) (arrived : List Http.Request)
    (completion : Completion) : Except ServiceFault String × Option Http.Request :=
  match service with
  | inProcess _ reply => ((reply earlier completion).mapError .reported, none)
  | remote api network =>
    match api.request? completion.turns completion.parameters with
    | none => (.error .unreachable, none)
    | some request =>
      match network arrived request with
      | none => (.error .unreachable, none)
      | some response => (ChatApi.outcome response, some request)

end Service

end PromptKernel
