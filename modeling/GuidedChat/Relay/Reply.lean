import GuidedChat.Called
import GuidedChat.Persona
import GuidedChat.Relay.Chat

/-! Replies passed on from the model. Pieces without text are left out, and the relay
waits for the first that remains: if that is an error, or the model cannot be reached,
the relay still has nothing to take back and reports a failure. Once text has come,
later errors are items of the reply like any other. -/

namespace GuidedChat.Relay

structure Call where
  instruction : String
  chat : Chat
  deriving DecidableEq, Repr

/-- How the model answers a call. -/
abbrev Model := Call → Except ProviderError TextStream

/-- Anything but a piece without text. -/
def carries : Except ProviderError String → Bool
  | .ok text => text ≠ ""
  | .error _ => true

/-- A reply that starts with text, or the failure that came before any. -/
def settle (answer : Except ProviderError TextStream) : Except Failure TextStream :=
  match answer with
  | .error error => .error (.ofProvider error)
  | .ok items =>
    match items.filter carries with
    | .error error :: _ => .error (.ofProvider error)
    | kept => .ok kept

/-- Puts a chat to the model under a persona's instruction. -/
def openReply (model : Model) (persona : Persona) (chat : Chat) :
    Called Call (Except Failure TextStream) :=
  let call : Call := ⟨persona.instruction, chat⟩
  ⟨[call], settle (model call)⟩

end GuidedChat.Relay
