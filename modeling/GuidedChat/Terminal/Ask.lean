import GuidedChat.Provider.Client
import GuidedChat.Terminal.Session

/-! One question put straight to the model. What has arrived is printed; the line is
ended only if the whole reply came. -/

namespace GuidedChat.Terminal

/-- Prints a reply up to the first error. -/
def printReply (output : String) : TextStream → String × Nat
  | [] => (output ++ "\n", 0)
  | .ok text :: rest => printReply (output ++ text) rest
  | .error _ :: _ => (output, 1)

def askClient (client : Provider.Client) (network : Http.Network) (persona : Persona)
    (message : String) : Outcome :=
  match Relay.Chat.ofEntries [⟨some "user", message⟩] with
  | .error _ => { exit := 1 }
  | .ok chat =>
    let reply := Relay.openReply (client.asModel fun _ => network 0) persona chat
    let requests := reply.calls.map fun call =>
      client.request (call.chat.toRequest call.instruction)
    match reply.result with
    | .error _ => { exit := 1, requests }
    | .ok items =>
      let (output, exit) := printReply "" items
      { exit, output, requests }

def ask (env : Environment) (network : Http.Network) (persona : Persona) (message : String) :
    Outcome :=
  match Provider.Config.ofEnvironment env >>= Provider.Config.client with
  | .error _ => { exit := 1 }
  | .ok client => askClient client network persona message

end GuidedChat.Terminal
