import GuidedChat.Json.Record

/-! What a conversation is made of, and the JSON documents in which a client and its
relay exchange it. Each document has one written form, with its fields in a fixed
order; reading it back gives the value again. -/

namespace GuidedChat

inductive Role
  | user
  | assistant
  deriving DecidableEq, Repr, Inhabited

structure Message where
  role : Role
  content : String
  deriving DecidableEq, Repr

namespace Role

def name : Role → String
  | user => "user"
  | assistant => "assistant"

def ofName? : String → Option Role
  | "user" => some user
  | "assistant" => some assistant
  | _ => none

theorem ofName?_name (role : Role) : ofName? role.name = some role := by
  cases role <;> rfl

def toJson (role : Role) : Json := .text role.name

def ofJson? (value : Json) : Option Role := value.caseName?.bind ofName?

end Role

namespace Message

def user (content : String) : Message := ⟨.user, content⟩

def assistant (content : String) : Message := ⟨.assistant, content⟩

def toJson (message : Message) : Json :=
  .record [("role", message.role.toJson), ("content", .text message.content)]

def ofJson? (value : Json) : Option Message := do
  let fields ← value.fields? ["role", "content"]
  return ⟨← Json.required fields "role" Role.ofJson?, ← Json.required fields "content" Json.text?⟩

end Message

/-- What a client posts to the relay: the whole conversation. -/
structure ChatRequest where
  messages : List Message
  deriving DecidableEq, Repr

namespace ChatRequest

def toJson (request : ChatRequest) : Json :=
  .record [("messages", .array (request.messages.map Message.toJson))]

def ofJson? (value : Json) : Option ChatRequest := do
  let fields ← value.fields? ["messages"]
  return ⟨← Json.required fields "messages" (Json.all? Message.ofJson?)⟩

/-- The text that goes to the relay. -/
def body (request : ChatRequest) : String := request.toJson.compact

end ChatRequest

/-- What the relay answers where it gives no reply. -/
structure ErrorBody where
  error : String
  deriving DecidableEq, Repr

namespace ErrorBody

def toJson (body : ErrorBody) : Json := .record [("error", .text body.error)]

def ofJson? (value : Json) : Option ErrorBody := do
  let fields ← value.fields? ["error"]
  return ⟨← Json.required fields "error" Json.text?⟩

end ErrorBody

end GuidedChat
