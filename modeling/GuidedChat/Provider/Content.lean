import GuidedChat.Json.Record

/-! A conversation in the form the model's provider takes it: turns of a user and the
model, each made of parts, and the request that carries them with an instruction. -/

namespace GuidedChat.Provider

inductive Speaker
  | user
  | model
  deriving DecidableEq, Repr

namespace Speaker

def name : Speaker → String
  | user => "user"
  | model => "model"

def ofName? : String → Option Speaker
  | "user" => some user
  | "model" => some model
  | _ => none

def toJson (speaker : Speaker) : Json := .text speaker.name

def ofJson? (value : Json) : Option Speaker := value.caseName?.bind ofName?

end Speaker

/-- A piece of text. -/
structure Part where
  text : String
  deriving DecidableEq, Repr

namespace Part

def toJson (part : Part) : Json := .record [("text", .text part.text)]

/-- A part without a text is an empty one. -/
def ofJson? (value : Json) : Option Part := do
  let fields ← value.fields? ["text"]
  return ⟨← Json.optional fields "text" "" Json.text?⟩

end Part

structure Content where
  role : Speaker
  parts : List Part
  deriving DecidableEq, Repr

namespace Content

def ofText (role : Speaker) (text : String) : Content := ⟨role, [⟨text⟩]⟩

def toJson (content : Content) : Json :=
  .record [("role", content.role.toJson), ("parts", .array (content.parts.map Part.toJson))]

def ofJson? (value : Json) : Option Content := do
  let fields ← value.fields? ["role", "parts"]
  return ⟨← Json.required fields "role" Speaker.ofJson?,
    ← Json.required fields "parts" (Json.all? Part.ofJson?)⟩

end Content

/-- What is asked of the model: an instruction, and turns the last of which is the one
to answer. -/
structure GenerateRequest where
  instruction : String
  contents : List Content
  deriving DecidableEq, Repr

namespace GenerateRequest

/-- The request to answer `message` after the turns of `history`. -/
def ofHistory (instruction : String) (history : List Content) (message : String) :
    GenerateRequest :=
  ⟨instruction, history ++ [.ofText .user message]⟩

def toJson (request : GenerateRequest) : Json :=
  .record [
    ("systemInstruction", .record [("parts", .array [Part.toJson ⟨request.instruction⟩])]),
    ("contents", .array (request.contents.map Content.toJson))]

/-- The text that goes to the provider. -/
def body (request : GenerateRequest) : String := request.toJson.compact

end GenerateRequest

end GuidedChat.Provider
