import GuidedChat.Persona
import GuidedChat.Terminal.Printer
import GuidedChat.Text.Lines
import GuidedChat.Transport.Http

/-! A chat in the terminal: the greeting, then one turn for each line that is not blank,
each with a request of its own to the relay, none of them repeated. -/

namespace GuidedChat.Terminal

/-- How a program ends: its exit code, what it printed, and the requests it made. -/
structure Outcome where
  exit : Nat
  output : String := ""
  requests : List Http.Request := []
  deriving DecidableEq, Repr

structure Session where
  conversation : Conversation
  output : String := ""
  requests : List Http.Request := []

namespace Session

def print (s : Session) (text : String) : Session := { s with output := s.output ++ text }

def turn (client : RelayClient) (network : Http.Network) (s : Session) :
    Conversation × Option TurnRequest → Session
  | (c, none) => { s with conversation := c }
  | (c, some request) =>
    let answer := RelayClient.receive (network s.requests.length)
    let taken := takeTurn (fun _ => answer) request
    let (c, printed) := printTurn c request.turn taken.result
    { conversation := c
      output := s.output ++ printed
      requests := s.requests ++ taken.calls.map client.request }

/-- Prompts for lines until there are no more; one that is no text ends the session. -/
def prompt (client : RelayClient) (network : Http.Network) (s : Session) :
    List (List UInt8) → Outcome
  | [] => ⟨0, s.output ++ "> ", s.requests⟩
  | line :: rest =>
    let s := s.print "> "
    match Utf8.decode? line with
    | none => ⟨1, s.output, s.requests⟩
    | some text =>
      prompt client network (s.turn client network (s.conversation.setInput text).submit) rest

end Session

def chat (persona : Persona) (server : String) (network : Http.Network) (input : List UInt8) :
    Outcome :=
  let client := RelayClient.ofServer server persona.flow.endpoint
  let opened : Session := {
    conversation := { greetingPrompt := persona.flow.greeting }
    output := "== " ++ persona.flow.name ++ " ==\n" }
  (opened.turn client network opened.conversation.bootstrap).prompt client network
    (Text.lines input)

end GuidedChat.Terminal
