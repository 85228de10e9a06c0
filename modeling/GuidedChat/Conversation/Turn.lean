import GuidedChat.Called
import GuidedChat.Conversation

/-! The events of a turn. However the relay behaves, a turn is the texts that arrived
before the first error, those without characters left out, and then one end: finished
if nothing went wrong, failed otherwise. -/

namespace GuidedChat

namespace TurnEvent

def ofChunks : ChunkStream → List TurnEvent
  | [] => [finished]
  | .ok text :: rest => if text = "" then ofChunks rest else chunk text :: ofChunks rest
  | .error error :: _ => [failed error.kind]

def ofSent : Except TransportError ChunkStream → List TurnEvent
  | .ok chunks => ofChunks chunks
  | .error error => [failed error.kind]

end TurnEvent

/-- Sends a request and reports what becomes of it. -/
def takeTurn (transport : Transport) (request : TurnRequest) :
    Called (List Message) (List TurnEvent) :=
  ⟨[request.messages], TurnEvent.ofSent (transport request.messages)⟩

/-- A whole turn of a conversation that has just made `request`. -/
def Conversation.converse (c : Conversation) (transport : Transport) (request : TurnRequest) :
    Called (List Message) Conversation :=
  let turn := takeTurn transport request
  ⟨turn.calls, c.applyAll request.turn turn.result⟩

end GuidedChat
