import GuidedChat.Decimal.Written
import GuidedChat.Json.Strict
import GuidedChat.Text.Quoted

/-! Chat requests as the relay takes them in. A body has to be a JSON value whose
`messages` is an array with at least one entry, and an entry has to have a text as its
content; its role may be any text. The first entry with a fault decides, and within an
entry a content that is no text comes before such a role, and both before a missing content. -/

namespace GuidedChat.Relay

structure Incoming where
  role : Option String
  content : String
  deriving DecidableEq, Repr

inductive EntryFault
  | missingContent
  | notText (found : Json)
  | notEntry (found : Json)
  | tooShort
  | tooLong (length : Nat)

inductive Rejection
  | notJson
  | notArray
  | noMessages
  | badMessage (fault : EntryFault)

/-- Which numbers error texts write out. -/
def numberReach : Decimal.Reach := ⟨-5, 16⟩

/-- A value as error texts name it. -/
def described : Json → String
  | .null => "null"
  | .bool b => "boolean `" ++ toString b ++ "`"
  | .number n =>
    match n.value? with
    | some (.natural n) => "integer `" ++ toString n ++ "`"
    | some (.negative n) => "integer `" ++ toString n ++ "`"
    | some (.real x) => "floating point `" ++ (Decimal.ofFloat x).written numberReach ++ "`"
    | none => "number"
  | .string text => "string " ++ Text.quoted (text.getD "")
  | .array _ => "sequence"
  | .object _ => "map"

def EntryFault.message : EntryFault → String
  | missingContent => "missing field `content`"
  | notText found => "invalid type: " ++ described found ++ ", expected a string"
  | notEntry found => "invalid type: " ++ described found ++ ", expected struct IncomingMessage"
  | tooShort => "invalid length 1, expected struct IncomingMessage with 2 elements"
  | tooLong length =>
    "invalid length " ++ toString length ++ ", expected fewer elements in array"

def Rejection.message : Rejection → String
  | notJson => "body is not JSON"
  | notArray => "messages is not an array"
  | noMessages => "messages is empty"
  | badMessage fault => "bad message: " ++ fault.message

namespace Incoming

def contentOf : Json → Except EntryFault String
  | .string (some text) => .ok text
  | found => .error (.notText found)

def roleOf : Json → Except EntryFault (Option String)
  | .null => .ok none
  | found => some <$> contentOf found

/-- Of an object, the members named `content` and `role` count, where the content is looked
at first and missed last; an array holds a role and a content, looked at in order. -/
def ofJson (entry : Json) : Except EntryFault Incoming :=
  match entry with
  | .object _ => do
    let content ← (entry.member? "content").mapM contentOf
    let role ← (entry.member? "role").mapM roleOf
    match content with
    | some content => .ok ⟨role.join, content⟩
    | none => .error .missingContent
  | .array [] => .error .tooShort
  | .array [role] => do
    let _ ← roleOf role
    .error .tooShort
  | .array (role :: content :: rest) => do
    let role ← roleOf role
    let content ← contentOf content
    if rest.isEmpty then .ok ⟨role, content⟩ else .error (.tooLong (rest.length + 2))
  | found => .error (.notEntry found)

end Incoming

def parse (body : List UInt8) : Except Rejection (List Incoming) :=
  match Json.ofBytes? body with
  | none => .error .notJson
  | some value =>
    match value.member? "messages" with
    | some (.array []) => .error .noMessages
    | some (.array entries) =>
      entries.mapM fun entry => (Incoming.ofJson entry).mapError .badMessage
    | _ => .error .notArray

end GuidedChat.Relay
