import GuidedChat.Http.Target

/-! Requests, and what becomes of them: a status with a body that arrives in frames, or
nothing at all. Where frames begin and end means nothing by itself. -/

namespace GuidedChat.Http

structure Request where
  method : String
  target : String
  /-- Names in lower case. -/
  headers : List (String × String) := []
  body : List UInt8
  deriving DecidableEq, Repr

namespace Request

def header? (request : Request) (name : String) : Option String := request.headers.lookup name

def path (request : Request) : String := (Target.ofString request.target).path

end Request

structure Response where
  status : Nat
  headers : List (String × String) := []
  frames : List (List UInt8) := []
  /-- The length of the body is not known before it ends. -/
  streamed : Bool := false
  /-- The body broke off after its last frame. -/
  aborted : Bool := false
  deriving DecidableEq, Repr

namespace Response

def isSuccess (response : Response) : Bool := 200 ≤ response.status && response.status < 300

theorem isSuccess_iff (response : Response) :
    response.isSuccess = true ↔ 200 ≤ response.status ∧ response.status < 300 := by
  simp [isSuccess]

def bytes (response : Response) : List UInt8 := response.frames.flatten

end Response

/-- What becomes of a request in the end, as the HTTP library hands it back: redirects have been
followed and the body is no longer compressed. -/
inductive Answer
  | response (response : Response)
  /-- No response came, for the reason given. -/
  | unreachable (reason : String)
  deriving DecidableEq, Repr

/-- What becomes of each request, by its place among those made; what the library sends to follow a
redirect is not counted. -/
abbrev Network := Nat → Answer

def userAgent : String := "navi/0.1.0"

def post (url : String) (headers : List (String × String)) (json : List UInt8) : Request :=
  { method := "POST"
    target := url
    headers := [("content-type", "application/json"), ("user-agent", userAgent)] ++ headers
    body := json }

end GuidedChat.Http
