import GuidedChat.Conversation

/-! What can be done to a conversation, as data, so that histories can be spoken of. -/

namespace GuidedChat.Conversation

inductive Action
  | setInput (text : String)
  | appendInput (text : String)
  | bootstrap
  | submit
  | apply (turn : Nat) (event : TurnEvent)
  deriving DecidableEq, Repr

/-- What an action gives back. -/
inductive Outcome
  | done
  | request (request : Option TurnRequest)
  | applied (changed : Bool)
  deriving DecidableEq, Repr

def perform (c : Conversation) : Action → Conversation × Outcome
  | .setInput text => (c.setInput text, .done)
  | .appendInput text => (c.appendInput text, .done)
  | .bootstrap => c.bootstrap.map id .request
  | .submit => c.submit.map id .request
  | .apply turn event => (c.apply turn event).map id .applied

/-- The conversation after some actions, with what each of them gave back. -/
def run (c : Conversation) : List Action → Conversation × List Outcome
  | [] => (c, [])
  | action :: rest =>
    let (next, outcome) := c.perform action
    let (last, outcomes) := next.run rest
    (last, outcome :: outcomes)

theorem run_append (c : Conversation) (before after : List Action) :
    c.run (before ++ after) =
      (((c.run before).1.run after).1, (c.run before).2 ++ ((c.run before).1.run after).2) := by
  induction before generalizing c with
  | nil => simp [run]
  | cons action rest ih => simp [run, ih]

end GuidedChat.Conversation
