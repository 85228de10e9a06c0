import GuidedChat.Guided.Step
import GuidedChat.Message
import GuidedChat.Text.Blank

/-! Guided work: fixed steps shown one at a time. An accepted input first leads into a
transition, and the next step is shown when it is revealed; whoever owns the flow does
so after the pacing delay. What was shown and what was answered is written to a
transcript. The step a state refers to exists by the type of the state. -/

namespace GuidedChat

inductive FlowState (size : Nat)
  | showing (index : Fin size)
  | transitioning (target : Fin size)
  | completed
  deriving DecidableEq, Repr

inductive Advance
  | ignored
  /-- Reveal the next step after this many milliseconds. -/
  | transitioning (delay : Nat)
  | completed (answers : Answers)
  deriving DecidableEq, Repr

/-- Milliseconds between two steps. -/
def pacingDelay : Nat := 800

def defaultCompletionMessage : String := "ワークお疲れ様でした。\n今の体感を大切にしてください。✨"

structure GuidedFlow where
  steps : List Step
  state : FlowState steps.length
  answers : Answers := {}
  transcript : List Message := []
  completionMessage : String

namespace GuidedFlow

/-- A flow at its first step; without steps it is completed and says nothing. -/
def start (completionMessage : String) : List Step → GuidedFlow
  | [] => { steps := [], state := .completed, completionMessage }
  | step :: rest =>
    { steps := step :: rest
      state := .showing ⟨0, Nat.zero_lt_succ _⟩
      transcript := [.assistant (step.text.render {})]
      completionMessage }

def ofSteps (steps : List Step) : GuidedFlow := start defaultCompletionMessage steps

def withCompletionMessage (flow : GuidedFlow) (message : String) : GuidedFlow :=
  { flow with completionMessage := message }

/-! ## Views -/

def size (flow : GuidedFlow) : Nat := flow.steps.length

def isCompleted (flow : GuidedFlow) : Bool := flow.state = .completed

/-- The step that is shown, or about to be. -/
def position (flow : GuidedFlow) : Nat :=
  match flow.state with
  | .showing index | .transitioning index => index
  | .completed => flow.size - 1

def currentStep (flow : GuidedFlow) : Option Step :=
  match flow.state with
  | .showing index => some flow.steps[index]
  | _ => none

def currentText (flow : GuidedFlow) : Option String :=
  flow.currentStep.map (·.text.render flow.answers)

/-! ## Operations -/

/-- Leaves a step: for the next one, or for the end. -/
def advanceFrom (flow : GuidedFlow) (index : Fin flow.steps.length) : GuidedFlow × Advance :=
  if h : index + 1 < flow.steps.length then
    ({ flow with state := .transitioning ⟨index + 1, h⟩ }, .transitioning pacingDelay)
  else
    ({ flow with
        state := .completed
        transcript := flow.transcript ++ [.assistant flow.completionMessage] },
      .completed flow.answers)

def record (flow : GuidedFlow) (step : Step) (answer : String) : GuidedFlow :=
  { flow with
    answers := match step.key with
      | some key => flow.answers.insert key answer
      | none => flow.answers
    transcript := flow.transcript ++ [.user answer] }

def tap (flow : GuidedFlow) : GuidedFlow × Advance :=
  match flow.state with
  | .showing index =>
    match flow.steps[index].input with
    | .tap => flow.advanceFrom index
    | _ => (flow, .ignored)
  | _ => (flow, .ignored)

def select (flow : GuidedFlow) (option : String) : GuidedFlow × Advance :=
  match flow.state with
  | .showing index =>
    match flow.steps[index].input with
    | .select options =>
      if option ∈ options then (flow.record flow.steps[index] option).advanceFrom index
      else (flow, .ignored)
    | _ => (flow, .ignored)
  | _ => (flow, .ignored)

def submitText (flow : GuidedFlow) (text : String) : GuidedFlow × Advance :=
  match flow.state with
  | .showing index =>
    match flow.steps[index].input with
    | .text _ =>
      let text := Text.trim text
      if text = "" then (flow, .ignored)
      else (flow.record flow.steps[index] text).advanceFrom index
    | _ => (flow, .ignored)
  | _ => (flow, .ignored)

/-- Goes back by one step, through a transition like any other. -/
def back (flow : GuidedFlow) : GuidedFlow × Advance :=
  match flow.state with
  | .showing ⟨index + 1, h⟩ =>
    ({ flow with state := .transitioning ⟨index, Nat.lt_of_succ_lt h⟩ },
      .transitioning pacingDelay)
  | _ => (flow, .ignored)

/-- Shows the step that a transition leads to, and tells whether there was one. -/
def reveal (flow : GuidedFlow) : GuidedFlow × Bool :=
  match flow.state with
  | .transitioning target =>
    ({ flow with
        state := .showing target
        transcript :=
          flow.transcript ++ [.assistant (flow.steps[target].text.render flow.answers)] },
      true)
  | _ => (flow, false)

def restart (flow : GuidedFlow) : GuidedFlow := start flow.completionMessage flow.steps

end GuidedFlow

inductive KeyCommand
  | next
  | previous
  deriving DecidableEq, Repr

/-- The command of a key, by the name of its place on the keyboard. -/
def KeyCommand.ofCode? : String → Option KeyCommand
  | "Space" | "Enter" => some next
  | "ArrowLeft" | "Backspace" => some previous
  | _ => none

/-- Keys act on tap steps only, so that typing into a text step moves nothing. -/
def GuidedFlow.key (flow : GuidedFlow) (command : KeyCommand) : GuidedFlow × Advance :=
  match flow.currentStep.map Step.input with
  | some .tap =>
    match command with
    | .next => flow.tap
    | .previous => flow.back
  | _ => (flow, .ignored)

end GuidedChat
