import GuidedChat.Json.Record
import GuidedChat.Provider.Content
import GuidedChat.Provider.Error

/-! What the provider sends: pieces of a reply, and errors. Whether an error is a rate
limit is read off its code and status, never off its message. A piece of a reply is the
text of its first candidate; pieces without one add nothing. -/

namespace GuidedChat.Provider

structure ErrorDetail where
  code : Option Nat := none
  message : String := ""
  status : Option String := none
  deriving DecidableEq, Repr

namespace ErrorDetail

def code? : Json → Option Nat
  | .number n =>
    match n.value? with
    | some (.natural n) => if n < UInt16.size then some n else none
    | _ => none
  | _ => none

def ofJson? (value : Json) : Option ErrorDetail := do
  let fields ← value.fields? ["code", "message", "status"]
  return {
    code := ← Json.nullable fields "code" code?
    message := ← Json.optional fields "message" "" Json.text?
    status := ← Json.nullable fields "status" Json.text? }

/-- The detail in a document whose `error` is one. -/
def ofDocument? (value : Json) : Option ErrorDetail := do
  let fields ← value.fields? ["error"]
  Json.required fields "error" ofJson?

/-- The error that a detail describes, where `status` stands for a missing code. -/
def toError (detail : ErrorDetail) (status : Nat) : ProviderError :=
  let status := detail.code.getD status
  if status = 429 ∨ detail.status = some "RESOURCE_EXHAUSTED" then .rateLimited detail.message
  else .api status detail.message

end ErrorDetail

/-- The error of a response without success. A body that gives no detail is the message. -/
def errorOfResponse (status : Nat) (body : String) : ProviderError :=
  (((Json.read? body).bind ErrorDetail.ofDocument?).getD { message := body }).toError status

structure Candidate where
  parts : List Part

namespace Candidate

private def partsOf? (value : Json) : Option (List Part) := do
  let fields ← value.fields? ["parts"]
  Json.optional fields "parts" [] (Json.all? Part.ofJson?)

def ofJson? (value : Json) : Option Candidate := do
  let fields ← value.fields? ["content"]
  return ⟨← Json.optional fields "content" [] partsOf?⟩

def text (candidate : Candidate) : String := String.join (candidate.parts.map (·.text))

end Candidate

def candidates? (value : Json) : Option (List Candidate) := do
  let fields ← value.fields? ["candidates"]
  Json.optional fields "candidates" [] (Json.all? Candidate.ofJson?)

def eventText (data : String) : Except ProviderError String :=
  let document := Json.read? data
  match document.bind ErrorDetail.ofDocument? with
  | some detail => .error (detail.toError 500)
  | none =>
    match document.bind candidates? with
    | some (candidate :: _) => .ok candidate.text
    | some [] => .ok ""
    | none => .error (.decode "not an event of a reply")

end GuidedChat.Provider
