import GuidedChat.Message

/-! How a conversation reaches the relay. Sending either fails at once or commits the
relay to a reply, which then arrives in pieces and may still break off. All that a
conversation asks of an error is whether the relay was rate limited. -/

namespace GuidedChat

inductive TransportError
  | rateLimited
  | status (code : Nat)
  | noBody
  | network (reason : String)
  | encode (reason : String)
  deriving DecidableEq, Repr

inductive FailureKind
  | rateLimited
  | other
  deriving DecidableEq, Repr

namespace TransportError

def ofStatus (code : Nat) : TransportError :=
  if code = 429 then rateLimited else status code

def isRateLimited : TransportError → Bool
  | rateLimited => true
  | _ => false

def kind (error : TransportError) : FailureKind :=
  if error.isRateLimited then .rateLimited else .other

def message : TransportError → String
  | rateLimited => "relay is rate limited"
  | status code => "relay responded with status " ++ toString code
  | noBody => "relay response has no readable body"
  | network reason => "network error: " ++ reason
  | encode reason => "could not encode request: " ++ reason

theorem isRateLimited_ofStatus (code : Nat) :
    (ofStatus code).isRateLimited = decide (code = 429) := by
  unfold ofStatus
  split <;> simp_all [isRateLimited]

end TransportError

/-- A reply as it arrives, already decoded. -/
abbrev ChunkStream := List (Except TransportError String)

/-- What becomes of messages that are sent. -/
abbrev Transport := List Message → Except TransportError ChunkStream

end GuidedChat
