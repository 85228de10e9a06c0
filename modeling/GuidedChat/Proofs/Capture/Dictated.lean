import GuidedChat.Capture.History
import GuidedChat.Conversation

/-! # Dictated text is conserved

Whoever dictates puts each text that a capture gives back after what is in the input. What is
put there is the final text of every batch, no matter whether the capture listens, is stopping
or has no session at all (`dictate_perform`), and nothing else. So after any history the input
has grown by the final segments in their order (`conserved_run`). -/

namespace GuidedChat

/-- Puts what an action of a capture gave back into the input. -/
def Conversation.dictate (conversation : Conversation) : Capture.Outcome → Conversation
  | .heard (some text) => conversation.appendInput text
  | _ => conversation

namespace Capture

/-- The segments of a batch that will not change any more; other actions bring none. -/
def Action.finals : Action → List Segment
  | .results segments => segments.filter (·.isFinal)
  | _ => []

/-- The same batch without what is still unstable. -/
def Action.onlyFinal? : Action → Option Action
  | .results segments => some (.results (segments.filter (·.isFinal)))
  | _ => none

def Outcome.text? : Outcome → Option String
  | .heard text => text
  | _ => none

def spoken (segments : List Segment) : String := String.join (segments.map (·.text))

/-- The conversation to whose input a capture is dictated while some actions happen to it. -/
def dictated (c : Capture) (conversation : Conversation) (actions : List Action) :
    Conversation :=
  (c.run actions).result.2.foldl Conversation.dictate conversation

/-- What becomes of a dictation. -/
structure Conserved (c : Capture) (conversation : Conversation) (actions : List Action) :
    Prop where
  input : (c.dictated conversation actions).input =
    conversation.input ++ spoken (actions.flatMap Action.finals)
  others : (c.dictated conversation actions).setInput conversation.input = conversation
  given : ∀ step ∈ actions.zip (c.run actions).result.2, ∀ text,
    step.2.text? = some text ↔ text ≠ "" ∧ text = spoken step.1.finals
  /-- It is as if only final text had been brought, and to any other capture. -/
  finals_only : ∀ other : Capture,
    other.dictated conversation (actions.filterMap Action.onlyFinal?) =
      c.dictated conversation actions

variable (c : Capture)

theorem spoken_append (first second : List Segment) :
    spoken (first ++ second) = spoken first ++ spoken second := by
  rw [spoken, spoken, spoken, List.map_append, String.join_append]

theorem joined_true (segments : List Segment) :
    joined true segments = spoken (segments.filter (·.isFinal)) := by
  simp [joined, spoken]

theorem text?_perform (action : Action) :
    (c.perform action).result.2.text? =
      if spoken action.finals = "" then none else some (spoken action.finals) := by
  cases action with
  | results segments =>
    rw [Action.finals, ← joined_true]
    rfl
  | start | stop | toggle | ended | failed | release => rfl

theorem text?_perform_getD (action : Action) :
    (c.perform action).result.2.text?.getD "" = spoken action.finals := by
  rw [c.text?_perform action]
  split
  · rename_i hnone
    exact hnone.symm
  · rfl

theorem dictate_eq (conversation : Conversation) (outcome : Outcome) :
    conversation.dictate outcome = conversation.appendInput (outcome.text?.getD "") := by
  have hnothing : conversation.appendInput "" = conversation := by
    rw [Conversation.appendInput, String.append_empty]
  cases outcome with
  | heard text =>
    cases text with
    | some text => rfl
    | none => exact hnothing.symm
  | done | started result | toggled result => exact hnothing.symm

theorem dictate_perform (conversation : Conversation) (action : Action) :
    conversation.dictate (c.perform action).result.2 =
      conversation.appendInput (spoken action.finals) := by
  rw [dictate_eq, c.text?_perform_getD action]

theorem dictated_cons (conversation : Conversation) (action : Action) (rest : List Action) :
    c.dictated conversation (action :: rest) =
      (c.perform action).result.1.dictated (conversation.dictate (c.perform action).result.2)
        rest := rfl

theorem dictated_eq (conversation : Conversation) (actions : List Action) :
    c.dictated conversation actions =
      conversation.appendInput (spoken (actions.flatMap Action.finals)) := by
  induction actions generalizing c conversation with
  | nil =>
    rw [List.flatMap_nil, Conversation.appendInput, spoken, List.map_nil, String.join_nil,
      String.append_empty]
    rfl
  | cons action rest ih =>
    rw [dictated_cons, ih, c.dictate_perform, List.flatMap_cons, spoken_append,
      Conversation.appendInput, Conversation.appendInput, Conversation.appendInput,
      String.append_assoc]

theorem exists_perform_of_mem_zip {actions : List Action} {step : Action × Outcome}
    (h : step ∈ actions.zip (c.run actions).result.2) :
    ∃ before : Capture, step.2 = (before.perform step.1).result.2 := by
  induction actions generalizing c with
  | nil => cases h
  | cons action rest ih =>
    rcases List.mem_cons.mp h with rfl | h
    · exact ⟨c, rfl⟩
    · exact ih _ h

theorem flatMap_onlyFinal? (actions : List Action) :
    (actions.filterMap Action.onlyFinal?).flatMap Action.finals = actions.flatMap Action.finals := by
  induction actions with
  | nil => rfl
  | cons action rest ih =>
    cases action with
    | results segments => simp [Action.onlyFinal?, Action.finals, ih]
    | start | stop | toggle | ended | failed | release => exact ih

/-- **Dictated text is conserved**, whatever the state of the capture and whatever happens to
it. -/
theorem conserved_run (conversation : Conversation) (actions : List Action) :
    c.Conserved conversation actions where
  input := by
    rw [c.dictated_eq]
    rfl
  others := by
    rw [c.dictated_eq]
    rfl
  given step hstep text := by
    obtain ⟨before, hbefore⟩ := c.exists_perform_of_mem_zip hstep
    rw [hbefore, before.text?_perform]
    split
    · rename_i hnone
      simp [hnone]
    · rename_i hsome
      constructor
      · intro hgiven
        cases hgiven
        exact ⟨hsome, rfl⟩
      · intro hfinal
        rw [hfinal.2]
  finals_only other := by
    rw [c.dictated_eq, other.dictated_eq, flatMap_onlyFinal?]

end Capture

end GuidedChat
