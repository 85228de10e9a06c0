import GuidedChat.Guided.Flow

/-! What can be done with a guided flow, as data, so that histories can be spoken of. -/

namespace GuidedChat.GuidedFlow

inductive Action
  | tap
  | select (option : String)
  | submitText (text : String)
  | key (command : KeyCommand)
  | back
  | reveal
  | restart
  deriving DecidableEq, Repr

inductive Outcome
  | done
  | advance (advance : Advance)
  | revealed (changed : Bool)
  deriving DecidableEq, Repr

def perform (flow : GuidedFlow) : Action → GuidedFlow × Outcome
  | .tap => flow.tap.map id .advance
  | .select option => (flow.select option).map id .advance
  | .submitText text => (flow.submitText text).map id .advance
  | .key command => (flow.key command).map id .advance
  | .back => flow.back.map id .advance
  | .reveal => flow.reveal.map id .revealed
  | .restart => (flow.restart, .done)

/-- The flow after some actions, with what each of them gave back. -/
def run (flow : GuidedFlow) : List Action → GuidedFlow × List Outcome
  | [] => (flow, [])
  | action :: rest =>
    let (next, outcome) := flow.perform action
    let (last, outcomes) := next.run rest
    (last, outcome :: outcomes)

end GuidedChat.GuidedFlow
