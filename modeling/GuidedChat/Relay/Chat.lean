import GuidedChat.Provider.Content
import GuidedChat.Provider.Error
import GuidedChat.Relay.Request

/-! A submitted conversation in the provider's form. The last entry is the one to
answer, whoever said it. Of the earlier ones, what the model said before the user first
spoke is left out, because a provider's history may not open with the model. -/

namespace GuidedChat.Relay

inductive Failure
  | invalid (reason : Rejection)
  | rateLimited (source : ProviderError)
  | provider (source : ProviderError)

namespace Failure

def message : Failure → String
  | invalid reason => "invalid request: " ++ reason.message
  | rateLimited _ => "upstream rate limited"
  | provider _ => "upstream failed"

def ofProvider (error : ProviderError) : Failure :=
  if error.isRateLimited then rateLimited error else provider error

end Failure

/-- Only an assistant is the model; any other role, and none, is the user. -/
def Incoming.speaker (entry : Incoming) : Provider.Speaker :=
  if entry.role = some "assistant" then .model else .user

def Incoming.toContent (entry : Incoming) : Provider.Content :=
  .ofText entry.speaker entry.content

structure Chat where
  history : List Provider.Content
  message : String
  deriving DecidableEq, Repr

namespace Chat

def ofEntries (entries : List Incoming) : Except Rejection Chat :=
  match entries.getLast? with
  | none => .error .noMessages
  | some last =>
    .ok {
      history := (entries.dropLast.map Incoming.toContent).dropWhile (·.role = .model)
      message := last.content }

/-- The chat of a request's body. -/
def ofBody (body : List UInt8) : Except Rejection Chat := do ofEntries (← parse body)

def toRequest (chat : Chat) (instruction : String) : Provider.GenerateRequest :=
  .ofHistory instruction chat.history chat.message

end Chat

end GuidedChat.Relay
