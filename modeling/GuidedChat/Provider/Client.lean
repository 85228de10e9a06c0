import GuidedChat.Environment
import GuidedChat.Http.Exchange
import GuidedChat.Provider.Event
import GuidedChat.Provider.EventStream
import GuidedChat.Relay.Reply

/-! The model's provider over HTTP: how it is configured, what is sent to it, and how its
answer is read as a reply. -/

namespace GuidedChat.Provider

structure Config where
  apiKey : String
  model : String := "gemini-3-flash-preview"
  apiBase : String := "https://generativelanguage.googleapis.com/v1beta"
  deriving DecidableEq, Repr

inductive ConfigError
  | missingKey
  | badKey
  deriving DecidableEq, Repr

def ConfigError.message : ConfigError → String
  | missingKey => "Could not find GOOGLE_API_KEY env var"
  | badKey => "Could not create header value"

/-- Whether a text can be sent in a header: tabs are the only controls in it. -/
def isHeaderText (text : String) : Bool :=
  text.toList.all fun c => c = '\t' || (' ' ≤ c && c ≠ '\x7f')

structure Client where
  apiKey : String
  model : String
  apiBase : String
  deriving DecidableEq, Repr

namespace Config

def ofEnvironment (env : Environment) : Except ConfigError Config :=
  match env.text? "GOOGLE_API_KEY" with
  | none => .error .missingKey
  | some apiKey =>
    let base : Config := { apiKey }
    .ok { base with
      model := (env.text? "NAVI_MODEL").getD base.model
      apiBase := (env.text? "NAVI_API_BASE").getD base.apiBase }

def client (config : Config) : Except ConfigError Client :=
  if isHeaderText config.apiKey then
    .ok {
      apiKey := config.apiKey
      model := config.model
      apiBase := String.ofList (config.apiBase.toList.reverse.dropWhile (· = '/')).reverse }
  else .error .badKey

end Config

namespace Client

def request (client : Client) (request : GenerateRequest) : Http.Request :=
  Http.post (client.apiBase ++ "/models/" ++ client.model ++ ":streamGenerateContent?alt=sse")
    [("x-goog-api-key", client.apiKey)] (Utf8.encode request.body)

/-- The reply in the body of a successful answer. If the body is not all text, or breaks
off, the reply ends with an error. -/
def reply (response : Http.Response) : TextStream :=
  let (events, whole) := EventStream.ofBytes response.bytes
  let broken := if response.aborted then [.error (.stream "the body broke off")] else []
  let garbled := if whole then [] else [.error (.stream "the body is not text")]
  events.map eventText ++ broken ++ garbled

/-- The body of an answer without success; some statuses never have one, and one that
breaks off is not read. It is taken to be UTF-8, as JSON is: a charset that the content type names
and a byte order mark, which the HTTP library would go by, are not looked at. -/
def errorBody (response : Http.Response) : String :=
  if response.aborted || response.status = 204 || response.status = 304 then ""
  else Utf8.lossy response.bytes

def receive : Http.Answer → Except ProviderError TextStream
  | .unreachable reason => .error (.transport reason)
  | .response response =>
    if response.isSuccess then .ok (reply response)
    else .error (errorOfResponse response.status (errorBody response))

/-- The provider as the model behind a relay, given what becomes of each request. -/
def asModel (client : Client) (network : Http.Request → Http.Answer) : Relay.Model :=
  fun call => receive (network (client.request (call.chat.toRequest call.instruction)))

end Client

end GuidedChat.Provider
