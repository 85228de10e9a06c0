import GuidedChat.Http.Exchange
import GuidedChat.Message
import GuidedChat.Relay.Reply

/-! The route of a flow: a posted conversation is answered with the model's reply as
plain text, frame by frame. A failure before the first text has a status of its own and
a fixed message; a later one can only break the body off. What failed is never told. -/

namespace GuidedChat.Service

/-- Bodies longer than this are not taken in. -/
def bodyLimit : Nat := 2 * 1024 * 1024

def plainText : String := "text/plain; charset=utf-8"

def refusalStatus : Relay.Failure → Nat
  | .invalid _ => 400
  | .rateLimited _ => 429
  | .provider _ => 500

def refusalMessage : Relay.Failure → String
  | .invalid _ => "messages array is required"
  | .rateLimited _ => "Rate limit exceeded"
  | .provider _ => "Internal server error"

def refusal (failure : Relay.Failure) : Http.Response :=
  { status := refusalStatus failure
    headers := [("content-type", "application/json")]
    frames := [Utf8.encode (ErrorBody.mk (refusalMessage failure)).toJson.compact] }

/-- The texts of a reply before anything goes wrong. -/
def texts : TextStream → List String
  | .ok text :: rest => text :: texts rest
  | _ => []

def isError : Except ProviderError String → Bool
  | .ok _ => false
  | .error _ => true

def replyResponse (reply : TextStream) : Http.Response :=
  { status := 200
    headers := [("content-type", plainText), ("cache-control", "no-cache"),
      ("x-accel-buffering", "no")]
    frames := (texts reply).map Utf8.encode
    streamed := true
    aborted := reply.any isError }

def tooLarge : Http.Response :=
  { status := 413
    headers := [("content-type", plainText)]
    frames := [Utf8.encode "Failed to buffer the request body: length limit exceeded"] }

/-- Answers what is posted to a persona. -/
def chat (model : Relay.Model) (persona : Persona) (body : List UInt8) :
    Called Relay.Call Http.Response :=
  if body.length > bodyLimit then ⟨[], tooLarge⟩
  else
    match Relay.Chat.ofBody body with
    | .error reason => ⟨[], refusal (.invalid reason)⟩
    | .ok chat =>
      let reply := Relay.openReply model persona chat
      ⟨reply.calls,
        match reply.result with
        | .ok reply => replyResponse reply
        | .error failure => refusal failure⟩

end GuidedChat.Service
