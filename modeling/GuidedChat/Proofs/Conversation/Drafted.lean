import GuidedChat.Proofs.Conversation.Undisturbed
import Mathlib.Data.List.DropRight

/-! # What is typed is neither lost nor sent twice

The input of a conversation is always what was typed since a text was last sent: the last text
that it was set to, with all that was appended after that (`draft`). Whoever submits gets a request
exactly if no reply is pending and there is more than blanks to send; the request then carries the
trimmed input once, behind all that has been said, and the input is empty (`drafted_run`). A refusal
changes nothing at all.

One action does to the input what `Action.typed` says, unless it sends it (`input_perform`), and
a draft grows by one action in the same way (`draft_concat`). -/

namespace GuidedChat.Conversation

def Action.set? : Action → Option String
  | .setInput text => some text
  | _ => none

def Action.appended? : Action → Option String
  | .appendInput text => some text
  | _ => none

/-- The last text that some actions set, with the texts that they appended after it. -/
def draft (actions : List Action) : String :=
  (actions.filterMap Action.set?).getLast?.getD "" ++
    String.join ((actions.rtakeWhile (·.set?.isNone)).filterMap Action.appended?)

/-- An input was submitted, and the request for it was granted. -/
def sends (step : Action × Outcome) : Bool :=
  step.1 = .submit && step.2.request?.isSome

/-- The actions since an input was last sent, or all of them. -/
def sinceSent (steps : List (Action × Outcome)) : List Action :=
  (steps.rtakeWhile (!sends ·)).map Prod.fst

/-- What becomes of the input of a conversation after these steps. -/
structure Drafted (c : Conversation) (steps : List (Action × Outcome)) : Prop where
  input_eq : c.input = draft (sinceSent steps)
  untouched : c.bootstrap.1.input = c.input ∧
    ∀ number event, (c.apply number event).1.input = c.input
  granted_iff : (∃ request, c.submit.2 = some request) ↔ c.canSubmit = true
  can_submit_iff : c.canSubmit = true ↔ c.phase = .idle ∧ Text.isBlankText c.input = false
  sent : ∀ request, c.submit.2 = some request →
    c.submit.1.input = "" ∧ request.messages = c.messages ++ [.user (Text.trim c.input)]
  /-- Only blanks at its ends are not sent. -/
  trimmed : Text.trim (Text.trim c.input) = Text.trim c.input ∧
    ∃ before after, Text.isBlankText before = true ∧ Text.isBlankText after = true ∧
      c.input = before ++ Text.trim c.input ++ after
  refused : (c.bootstrap.2 = none → c.bootstrap.1 = c) ∧ (c.submit.2 = none → c.submit.1 = c)
  greeted_once : granted .bootstrap steps ≤ 1

/-! ## Drafts -/

/-- One more action does to a draft what it does to an input. -/
theorem draft_concat (actions : List Action) (last : Action) :
    draft (actions ++ [last]) = last.typed (draft actions) := by
  rw [draft, List.filterMap_append]
  cases last with
  | setInput text =>
    rw [List.rtakeWhile_concat_neg _ _ _ (by simp [Action.set?])]
    simp [Action.set?, Action.typed]
  | appendInput text =>
    rw [List.rtakeWhile_concat_pos _ _ _ rfl, List.filterMap_append]
    simp [Action.set?, Action.appended?, Action.typed, draft, String.append_assoc]
  | bootstrap | submit | apply number event =>
    rw [List.rtakeWhile_concat_pos _ _ _ rfl, List.filterMap_append]
    simp [List.filterMap_cons, Action.set?, Action.appended?, Action.typed, draft]

theorem sinceSent_concat (steps : List (Action × Outcome)) (last : Action × Outcome) :
    sinceSent (steps ++ [last]) = if sends last then [] else sinceSent steps ++ [last.1] := by
  rw [sinceSent, List.rtakeWhile_concat]
  cases sends last <;> simp [sinceSent]

/-! ## One action -/

variable (c : Conversation)

theorem input_bootstrap : c.bootstrap.1.input = c.input := by
  rcases c.bootstrap_cases with ⟨-, h⟩ | ⟨-, -, h⟩
  · rw [h]
  · rw [h]
    rfl

theorem input_perform (action : Action) :
    (c.perform action).1.input =
      if sends (action, (c.perform action).2) then "" else action.typed c.input := by
  cases action with
  | setInput text | appendInput text => rfl
  | bootstrap => exact c.input_bootstrap
  | submit =>
    rw [perform_submit]
    rcases c.submit_cases with ⟨-, h⟩ | ⟨-, -, h⟩
    · rw [h]
      rfl
    · rw [h]
      rfl
  | apply number event => exact (c.apply_keeps number event).2.1

theorem submit_granted_iff : (∃ request, c.submit.2 = some request) ↔ c.canSubmit = true := by
  rcases c.submit_cases with ⟨hcannot, h⟩ | ⟨hidle, htext, h⟩
  · simp [h, hcannot]
  · simp [h, c.canSubmit_iff.mpr ⟨hidle, htext⟩]

theorem canSubmit_iff_idle :
    c.canSubmit = true ↔ c.phase = .idle ∧ Text.isBlankText c.input = false := by
  rw [c.canSubmit_iff, phase_eq_idle_iff, ne_eq, Text.trim_eq_empty_iff, Bool.not_eq_true]
  simp [isBusy]

theorem submit_sent {request : TurnRequest} (h : c.submit.2 = some request) :
    c.submit.1.input = "" ∧ request.messages = c.messages ++ [.user (Text.trim c.input)] := by
  rcases c.submit_cases with ⟨-, hrefused⟩ | ⟨hidle, -, hgranted⟩
  · rw [hrefused] at h
    cases h
  · rw [hgranted] at h ⊢
    cases h
    refine ⟨rfl, ?_⟩
    simp [messages, hidle]

theorem eq_of_refused :
    (c.bootstrap.2 = none → c.bootstrap.1 = c) ∧ (c.submit.2 = none → c.submit.1 = c) := by
  constructor
  · rcases c.bootstrap_cases with ⟨-, h⟩ | ⟨-, -, h⟩ <;> simp [h]
  · rcases c.submit_cases with ⟨-, h⟩ | ⟨-, -, h⟩ <;> simp [h]

theorem granted_bootstrap_perform (action : Action) :
    c.bootstrapped.toNat + granted .bootstrap [(action, (c.perform action).2)] =
      (c.perform action).1.bootstrapped.toNat := by
  cases action with
  | setInput text | appendInput text => rfl
  | bootstrap =>
    rw [perform_bootstrap]
    rcases c.bootstrap_cases with ⟨-, h⟩ | ⟨hfirst, -, h⟩
    · simp [h, granted, Outcome.request?]
    · simp [h, hfirst, granted, Outcome.request?, begin]
  | submit =>
    rw [perform_submit]
    rcases c.submit_cases with ⟨-, h⟩ | ⟨-, -, h⟩ <;> simp [h, granted, begin]
  | apply number event =>
    rw [perform_apply, (c.apply_keeps number event).2.2.1]
    simp [granted]

/-! ## Runs -/

theorem input_run (actions : List Action) (h : c.input = "") :
    (c.run actions).1.input = draft (sinceSent (actions.zip (c.run actions).2)) := by
  induction actions using List.reverseRec with
  | nil => exact h
  | append_singleton before last ih =>
    rw [zip_run_concat, run_concat, sinceSent_concat, input_perform]
    split
    · rfl
    · rw [draft_concat, ih]

theorem granted_bootstrap_run (actions : List Action) :
    c.bootstrapped.toNat + granted .bootstrap (actions.zip (c.run actions).2) =
      (c.run actions).1.bootstrapped.toNat := by
  induction actions generalizing c with
  | nil => rfl
  | cons action rest ih =>
    rw [run_cons, List.zip_cons_cons, granted_cons, ← ih, ← c.granted_bootstrap_perform action,
      Nat.add_assoc]

/-- **What is typed is neither lost nor sent twice**, whatever was done to a conversation since it
was fresh. -/
theorem drafted_run (greetingPrompt : String) (fallbacks : Fallbacks) (actions : List Action) :
    Drafted ((fresh greetingPrompt fallbacks).run actions).1
      (actions.zip ((fresh greetingPrompt fallbacks).run actions).2) := by
  have hgranted := granted_bootstrap_run (fresh greetingPrompt fallbacks) actions
  have hinput := input_run (fresh greetingPrompt fallbacks) actions rfl
  generalize actions.zip ((fresh greetingPrompt fallbacks).run actions).2 = steps at *
  generalize ((fresh greetingPrompt fallbacks).run actions).1 = c at *
  exact {
    input_eq := hinput
    untouched := ⟨c.input_bootstrap, fun number event => (c.apply_keeps number event).2.1⟩
    granted_iff := c.submit_granted_iff
    can_submit_iff := c.canSubmit_iff_idle
    sent := fun _ => c.submit_sent
    trimmed := ⟨Text.trim_trim c.input, Text.exists_eq_append_trim c.input⟩
    refused := c.eq_of_refused
    greeted_once := by
      have hone := Bool.toNat_le c.bootstrapped
      omega }

/-- What is typed while a reply is pending waits for the next request. -/
example : ((fresh "p" {}).run [.setInput " a", .submit, .appendInput "b", .submit,
    .apply 1 .finished, .appendInput "c ", .submit]).2.filterMap Outcome.request? =
      [⟨1, [.user "a"]⟩, ⟨2, [.user "a", .assistant "", .user "bc"]⟩] := by
  decide +kernel

end GuidedChat.Conversation
