import GuidedChat.Guided.History

/-! # What one action does to a guided flow

An input is ignored, or leads from the step that is shown to the one before it, the one after
it or the end (`input_cases`). Only a step whose kind suits the input leads ahead, and what it
takes as an answer is kept on the way. Nothing else needs to be known of the operations. -/

namespace GuidedChat

/-- What may be answered where an input is asked for. A tap is no answer. -/
def StepInput.Admits : StepInput → String → Prop
  | .tap, _ => False
  | .select options, answer => answer ∈ options
  | .text _, answer => answer ≠ "" ∧ Text.trim answer = answer

namespace GuidedFlow

/-- Where a flow stands, with its steps by their numbers. -/
inductive Stage
  | showing (index : Nat)
  | transitioning (target : Nat)
  | completed
  deriving DecidableEq, Repr

def stage (flow : GuidedFlow) : Stage :=
  match flow.state with
  | .showing index => .showing index
  | .transitioning target => .transitioning target
  | .completed => .completed

namespace Action

/-- What the user does; the rest is up to the owner of the flow. -/
def isInput : Action → Bool
  | .tap | .select _ | .submitText _ | .key _ | .back => true
  | .reveal | .restart => false

theorem input_or (action : Action) :
    action.isInput = true ∨ action = .reveal ∨ action = .restart := by
  cases action <;> simp [isInput]

def isBackward : Action → Bool
  | .back | .key .previous => true
  | _ => false

/-- The action leads ahead from such a step, which takes this answer from it, if any. -/
inductive Suits : Action → Step → Option String → Prop
  | tap {step} (h : step.input = .tap) : Suits .tap step none
  | next {step} (h : step.input = .tap) : Suits (.key .next) step none
  | select {step options option} (h : step.input = .select options) (hmem : option ∈ options) :
    Suits (.select option) step (some option)
  | text {step placeholder text} (h : step.input = .text placeholder)
      (hne : Text.trim text ≠ "") : Suits (.submitText text) step (some (Text.trim text))

end Action

def keep (flow : GuidedFlow) (step : Step) (answer : Option String) : GuidedFlow :=
  { flow with
    answers := match answer with
      | some answer => (flow.record step answer).answers
      | none => flow.answers
    transcript := match answer with
      | some answer => (flow.record step answer).transcript
      | none => flow.transcript }

variable (flow : GuidedFlow)

/-- An answer is kept if there is one and the step has a key for it. -/
theorem keep_cases (step : Step) (answer : Option String) :
    ((answer = none ∨ step.key = none) ∧ (flow.keep step answer).answers = flow.answers) ∨
    ∃ key text, step.key = some key ∧ answer = some text ∧
      (flow.keep step answer).answers = flow.answers.insert key text := by
  cases answer with
  | none => exact .inl ⟨.inl rfl, rfl⟩
  | some text =>
    cases hkey : step.key with
    | none => exact .inl ⟨.inr rfl, by simp [keep, record, hkey]⟩
    | some key => exact .inr ⟨key, text, rfl, rfl, by simp [keep, record, hkey]⟩

/-! ## Ahead and back -/

theorem advanceFrom_cases (index : Fin flow.steps.length) :
    (∃ h : index + 1 < flow.steps.length,
      flow.advanceFrom index =
        ({ flow with state := .transitioning ⟨index + 1, h⟩ }, .transitioning pacingDelay)) ∨
    (index + 1 = flow.steps.length ∧
      flow.advanceFrom index =
        ({ flow with
            state := .completed
            transcript := flow.transcript ++ [.assistant flow.completionMessage] },
          .completed flow.answers)) := by
  unfold advanceFrom
  by_cases h : index + 1 < flow.steps.length
  · exact .inl ⟨h, dif_pos h⟩
  · exact .inr ⟨by omega, dif_neg h⟩

/-- The action leads ahead from the step that is shown, which suits it. -/
def Leads (action : Action) (led : GuidedFlow × Advance) : Prop :=
  ∃ (index : Fin flow.steps.length) (step : Step) (answer : Option String),
    flow.state = .showing index ∧ flow.steps[index.val]? = some step ∧
      action.Suits step answer ∧ led = (flow.keep step answer).advanceFrom index

def Returns (led : GuidedFlow × Advance) : Prop :=
  ∃ index target : Fin flow.steps.length, flow.state = .showing index ∧
    target.val + 1 = index.val ∧
      led = ({ flow with state := .transitioning target }, .transitioning pacingDelay)

theorem back_cases : flow.back = (flow, .ignored) ∨ flow.Returns flow.back := by
  unfold back
  split
  · rename_i index h hstate
    exact .inr ⟨⟨index + 1, h⟩, ⟨index, Nat.lt_of_succ_lt h⟩, hstate, rfl, rfl⟩
  · exact .inl rfl

theorem tap_cases {action : Action}
    (h : ∀ step : Step, step.input = .tap → action.Suits step none) :
    flow.tap = (flow, .ignored) ∨ flow.Leads action flow.tap := by
  unfold tap
  split
  · rename_i index hstate
    split
    · rename_i hinput
      exact .inr ⟨index, _, none, hstate, List.getElem?_eq_getElem index.isLt, h _ hinput, rfl⟩
    · exact .inl rfl
  · exact .inl rfl

theorem select_cases (option : String) :
    flow.select option = (flow, .ignored) ∨
      flow.Leads (.select option) (flow.select option) := by
  unfold select
  split
  · rename_i index hstate
    split
    · rename_i options hinput
      split
      · rename_i hmem
        exact .inr ⟨index, _, some option, hstate, List.getElem?_eq_getElem index.isLt,
          .select hinput hmem, rfl⟩
      · exact .inl rfl
    · exact .inl rfl
  · exact .inl rfl

theorem submitText_cases (text : String) :
    flow.submitText text = (flow, .ignored) ∨
      flow.Leads (.submitText text) (flow.submitText text) := by
  unfold submitText
  split
  · rename_i index hstate
    split
    · rename_i placeholder hinput
      by_cases hne : Text.trim text = ""
      · exact .inl (if_pos hne)
      · exact .inr ⟨index, _, some (Text.trim text), hstate,
          List.getElem?_eq_getElem index.isLt, .text hinput hne, if_neg hne⟩
    · exact .inl rfl
  · exact .inl rfl

theorem key_next_cases :
    flow.key .next = (flow, .ignored) ∨ flow.Leads (.key .next) (flow.key .next) := by
  unfold key
  split
  · exact flow.tap_cases fun _ => .next
  · exact .inl rfl

theorem key_previous_cases :
    flow.key .previous = (flow, .ignored) ∨ flow.Returns (flow.key .previous) := by
  unfold key
  split
  · exact flow.back_cases
  · exact .inl rfl

/-- An input is ignored, leads back or leads ahead. -/
theorem input_cases {action : Action} (h : action.isInput = true) :
    ∃ led : GuidedFlow × Advance, flow.perform action = (led.1, .advance led.2) ∧
      (led = (flow, .ignored) ∨ (action.isBackward = true ∧ flow.Returns led) ∨
        (action.isBackward = false ∧ flow.Leads action led)) := by
  cases action with
  | tap => exact ⟨_, rfl, (flow.tap_cases fun _ => .tap).imp_right fun h => .inr ⟨rfl, h⟩⟩
  | select option =>
    exact ⟨_, rfl, (flow.select_cases option).imp_right fun h => .inr ⟨rfl, h⟩⟩
  | submitText text =>
    exact ⟨_, rfl, (flow.submitText_cases text).imp_right fun h => .inr ⟨rfl, h⟩⟩
  | key command =>
    cases command with
    | next => exact ⟨_, rfl, flow.key_next_cases.imp_right fun h => .inr ⟨rfl, h⟩⟩
    | previous => exact ⟨_, rfl, flow.key_previous_cases.imp_right fun h => .inl ⟨rfl, h⟩⟩
  | back => exact ⟨_, rfl, flow.back_cases.imp_right fun h => .inl ⟨rfl, h⟩⟩
  | reveal => cases h
  | restart => cases h

/-- A transition ends where it leads to; there is nothing else to reveal. -/
theorem reveal_cases :
    ((∀ target, flow.state ≠ .transitioning target) ∧ flow.reveal = (flow, false)) ∨
    ∃ (target : Fin flow.steps.length) (step : Step), flow.state = .transitioning target ∧
      flow.steps[target.val]? = some step ∧
      flow.reveal =
        ({ flow with
            state := .showing target
            transcript := flow.transcript ++ [.assistant (step.text.render flow.answers)] },
          true) := by
  unfold reveal
  split
  · rename_i target hstate
    exact .inr ⟨target, _, hstate, List.getElem?_eq_getElem target.isLt, rfl⟩
  · rename_i hstate
    exact .inl ⟨hstate, rfl⟩

/-! ## What no action changes -/

theorem perform_reveal : flow.perform .reveal = (flow.reveal.1, .revealed flow.reveal.2) := rfl

theorem start_setup (completionMessage : String) (steps : List Step) :
    (start completionMessage steps).steps = steps ∧
      (start completionMessage steps).completionMessage = completionMessage := by
  cases steps <;> exact ⟨rfl, rfl⟩

theorem perform_setup (action : Action) :
    (flow.perform action).1.steps = flow.steps ∧
      (flow.perform action).1.completionMessage = flow.completionMessage := by
  rcases action.input_or with hinput | rfl | rfl
  · obtain ⟨led, hperform, hled⟩ := flow.input_cases hinput
    rw [hperform]
    rcases hled with rfl | ⟨-, _, _, -, -, rfl⟩ | ⟨-, index, step, answer, -, -, -, rfl⟩
    · exact ⟨rfl, rfl⟩
    · exact ⟨rfl, rfl⟩
    · rcases (flow.keep step answer).advanceFrom_cases index with ⟨_, h⟩ | ⟨-, h⟩
      · rw [h]
        exact ⟨rfl, rfl⟩
      · rw [h]
        exact ⟨rfl, rfl⟩
  · rw [perform_reveal]
    rcases flow.reveal_cases with ⟨-, h⟩ | ⟨_, _, -, -, h⟩
    · rw [h]
      exact ⟨rfl, rfl⟩
    · rw [h]
      exact ⟨rfl, rfl⟩
  · exact start_setup flow.completionMessage flow.steps

theorem run_cons (action : Action) (rest : List Action) :
    flow.run (action :: rest) =
      (((flow.perform action).1.run rest).1,
        (flow.perform action).2 :: ((flow.perform action).1.run rest).2) := rfl

theorem run_setup (actions : List Action) :
    (flow.run actions).1.steps = flow.steps ∧
      (flow.run actions).1.completionMessage = flow.completionMessage := by
  induction actions generalizing flow with
  | nil => exact ⟨rfl, rfl⟩
  | cons action rest ih =>
    obtain ⟨hsteps, hmessage⟩ := ih (flow.perform action).1
    rw [run_cons, hsteps, hmessage]
    exact flow.perform_setup action

end GuidedFlow

end GuidedChat
