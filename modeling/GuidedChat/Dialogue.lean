import GuidedChat.Conversation.History

/-! A conversation held in place, as a view shows it: all messages in one list, the pending reply
among them. What is known of that reply stands beside the list, its index and the phase, and an
operation changes one after the other. Nothing in the type keeps them together; that an index has a
message is looked up where it is used. -/

namespace GuidedChat

/-- No message has this index. -/
structure OutOfRange where
  index : Nat
  deriving DecidableEq, Repr

structure Dialogue where
  messages : List Message := []
  input : String := ""
  phase : Phase := .idle
  greetingPrompt : String
  bootstrapped : Bool := false
  turn : Nat := 0
  /-- Where the pending reply stands. -/
  placeholder : Option Nat := none
  lastFailure : Option FailureKind := none
  fallbacks : Fallbacks := {}
  deriving DecidableEq, Repr

def Fallbacks.inPhase (fallbacks : Fallbacks) : Phase → FailureKind → String
  | .awaitingFirstReply, .rateLimited => fallbacks.greetingRateLimited
  | .awaitingFirstReply, .other => fallbacks.greeting
  | _, .rateLimited => fallbacks.replyRateLimited
  | _, .other => fallbacks.reply

namespace Dialogue

/-! ## Views -/

def isBusy (d : Dialogue) : Bool := d.phase ≠ .idle

def canSubmit (d : Dialogue) : Bool := !d.isBusy && Text.trim d.input ≠ ""

def message (d : Dialogue) (index : Nat) : Except OutOfRange Message :=
  match d.messages[index]? with
  | some message => .ok message
  | none => .error ⟨index⟩

def pendingRole (d : Dialogue) : Except OutOfRange (Option Role) :=
  match d.placeholder with
  | none => .ok none
  | some index => (d.message index).map (some ·.role)

/-! ## Operations -/

def beginTurn (d : Dialogue) (asked : List Message) : Dialogue × TurnRequest :=
  let d := { d with turn := d.turn + 1 }
  let d := { d with lastFailure := none }
  let d := { d with messages := d.messages ++ [Message.assistant ""] }
  let d := { d with placeholder := some (d.messages.length - 1) }
  (d, ⟨d.turn, asked⟩)

def bootstrap (d : Dialogue) : Dialogue × Option TurnRequest :=
  if d.bootstrapped || d.isBusy then (d, none)
  else
    let d := { d with bootstrapped := true }
    let (d, request) := d.beginTurn [.user d.greetingPrompt]
    ({ d with phase := .awaitingFirstReply }, some request)

def submit (d : Dialogue) : Dialogue × Option TurnRequest :=
  if d.canSubmit then
    let text := Text.trim d.input
    let d := { d with input := "" }
    let d := { d with messages := d.messages ++ [Message.user text] }
    let (d, request) := d.beginTurn d.messages
    ({ d with phase := .awaitingReply }, some request)
  else (d, none)

def rewrite (d : Dialogue) (index : Nat) (content : String → String) :
    Except OutOfRange Dialogue := do
  let message ← d.message index
  let message := { message with content := content message.content }
  return { d with messages := d.messages.set index message }

def apply (d : Dialogue) (turn : Nat) (event : TurnEvent) :
    Except OutOfRange (Dialogue × Bool) :=
  if turn ≠ d.turn then .ok (d, false)
  else
    match d.placeholder with
    | none => .ok (d, false)
    | some index =>
      match event with
      | .chunk text =>
        if text = "" then .ok (d, false)
        else do
          let d ← d.rewrite index (· ++ text)
          return (d, true)
      | .finished =>
        let d := { d with placeholder := none }
        .ok ({ d with phase := .idle }, true)
      | .failed kind => do
        let d ← d.rewrite index fun _ => d.fallbacks.inPhase d.phase kind
        let d := { d with placeholder := none }
        let d := { d with lastFailure := some kind }
        return ({ d with phase := .idle }, true)

/-! ## Histories -/

def perform (d : Dialogue) :
    Conversation.Action → Except OutOfRange (Dialogue × Conversation.Outcome)
  | .setInput text => .ok ({ d with input := text }, .done)
  | .appendInput text => .ok ({ d with input := d.input ++ text }, .done)
  | .bootstrap => .ok (d.bootstrap.map id .request)
  | .submit => .ok (d.submit.map id .request)
  | .apply turn event => do
    let (d, changed) ← d.apply turn event
    return (d, .applied changed)

/-- The dialogue after some actions, with what each of them gave back. -/
def run (d : Dialogue) :
    List Conversation.Action → Except OutOfRange (Dialogue × List Conversation.Outcome)
  | [] => .ok (d, [])
  | action :: rest => do
    let (next, outcome) ← d.perform action
    let (last, outcomes) ← next.run rest
    return (last, outcome :: outcomes)

end Dialogue

end GuidedChat
