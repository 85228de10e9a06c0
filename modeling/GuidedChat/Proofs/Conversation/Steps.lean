import GuidedChat.Conversation.History

/-! # What one action can do to a conversation

Each operation either is refused and changes nothing, or does one thing. The lemmas of this
module say which, with all that is known in either case, so that a property of runs needs no
look into the operations. -/

namespace GuidedChat.Conversation

variable (c : Conversation)

/-- The greeting is asked for unless it has been before or a reply is pending. -/
theorem bootstrap_cases :
    ((c.bootstrapped = true ∨ c.pending ≠ none) ∧ c.bootstrap = (c, none)) ∨
    (c.bootstrapped = false ∧ c.pending = none ∧
      c.bootstrap = ({ c with bootstrapped := true }.begin .greeting,
        some ⟨c.turn + 1, [.user c.greetingPrompt]⟩)) := by
  unfold bootstrap
  by_cases h : (c.bootstrapped || c.isBusy) = true
  · left
    rw [if_pos h]
    refine ⟨?_, rfl⟩
    simpa [isBusy, Option.isSome_iff_ne_none] using h
  · right
    rw [if_neg h]
    simp only [Bool.or_eq_true, not_or, Bool.not_eq_true] at h
    exact ⟨h.1, by simpa [isBusy] using h.2, rfl⟩

theorem canSubmit_iff : c.canSubmit = true ↔ c.pending = none ∧ Text.trim c.input ≠ "" := by
  simp [canSubmit, isBusy]

/-- The trimmed input is asked about unless it is empty or a reply is pending. -/
theorem submit_cases :
    (c.canSubmit = false ∧ c.submit = (c, none)) ∨
    (c.pending = none ∧ Text.trim c.input ≠ "" ∧
      c.submit =
        ({ c with
            input := ""
            settled := c.settled ++ [Message.user (Text.trim c.input)] }.begin .reply,
          some ⟨c.turn + 1, c.settled ++ [.user (Text.trim c.input)]⟩)) := by
  unfold submit
  by_cases h : c.canSubmit = true
  · right
    obtain ⟨hidle, htext⟩ := c.canSubmit_iff.mp h
    exact ⟨hidle, htext, if_pos h⟩
  · left
    exact ⟨Bool.not_eq_true _ ▸ h, if_neg h⟩

/-- An event changes nothing unless it is of the pending turn and more than an empty
chunk; then it grows the pending reply or ends it. -/
theorem apply_cases (number : Nat) (event : TurnEvent) :
    ((number ≠ c.turn ∨ c.pending = none ∨ event = .chunk "") ∧
      c.apply number event = (c, false)) ∨
    (∃ pending, number = c.turn ∧ c.pending = some pending ∧
      ((∃ text, text ≠ "" ∧ event = .chunk text ∧
          c.apply number event =
            ({ c with pending := some { pending with text := pending.text ++ text } }, true)) ∨
        (event = .finished ∧ c.apply number event = (c.settle pending.text none, true)) ∨
        (∃ kind, event = .failed kind ∧
          c.apply number event =
            (c.settle (c.fallbacks.text pending.kind kind) (some kind), true)))) := by
  by_cases hnumber : number = c.turn
  · cases hpending : c.pending with
    | none =>
      left
      exact ⟨.inr (.inl rfl), by simp [apply, hpending]⟩
    | some pending =>
      cases event with
      | chunk text =>
        by_cases htext : text = ""
        · left
          exact ⟨.inr (.inr (by rw [htext])), by simp [apply, hpending, htext]⟩
        · right
          exact ⟨pending, hnumber, rfl, .inl ⟨text, htext, rfl, by
            simp [apply, hnumber, hpending, htext]⟩⟩
      | finished =>
        right
        exact ⟨pending, hnumber, rfl, .inr (.inl ⟨rfl, by simp [apply, hnumber, hpending]⟩)⟩
      | failed kind =>
        right
        exact ⟨pending, hnumber, rfl, .inr (.inr ⟨kind, rfl, by
          simp [apply, hnumber, hpending]⟩)⟩
  · left
    exact ⟨.inl hnumber, by simp [apply, hnumber]⟩

theorem apply_refused {number : Nat} (h : number ≠ c.turn ∨ c.pending = none)
    (event : TurnEvent) : c.apply number event = (c, false) := by
  rcases c.apply_cases number event with ⟨-, hsame⟩ | ⟨pending, hnumber, hpending, -⟩
  · exact hsame
  · rcases h with hother | hidle
    · exact absurd hnumber hother
    · rw [hidle] at hpending
      cases hpending

/-- While a reply is pending no request is granted. -/
theorem requests_refused (hbusy : c.pending ≠ none) :
    c.bootstrap = (c, none) ∧ c.submit = (c, none) := by
  constructor
  · rcases c.bootstrap_cases with ⟨-, hrefused⟩ | ⟨-, hidle, -⟩
    · exact hrefused
    · exact absurd hidle hbusy
  · rcases c.submit_cases with ⟨-, hrefused⟩ | ⟨hidle, -, -⟩
    · exact hrefused
    · exact absurd hidle hbusy

/-- What no event changes; and none makes a reply pending. -/
theorem apply_keeps (number : Nat) (event : TurnEvent) :
    (c.apply number event).1.turn = c.turn ∧ (c.apply number event).1.input = c.input ∧
      (c.apply number event).1.bootstrapped = c.bootstrapped ∧
      (c.pending = none → (c.apply number event).1.pending = none) := by
  rcases c.apply_cases number event with
      ⟨-, h⟩ | ⟨_, -, hpending, ⟨_, -, -, h⟩ | ⟨-, h⟩ | ⟨_, -, h⟩⟩ <;>
    simp_all [settle]

theorem apply_terminal {number : Nat} {event : TurnEvent} (hnumber : number = c.turn)
    (hend : event.isTerminal = true) : (c.apply number event).1.pending = none := by
  rcases c.apply_cases number event with
      ⟨hother | hidle | rfl, hsame⟩ |
        ⟨_, -, -, ⟨_, -, rfl, -⟩ | ⟨rfl, hsettled⟩ | ⟨_, rfl, hsettled⟩⟩
  · exact absurd hnumber hother
  · rw [hsame]
    exact hidle
  · cases hend
  · cases hend
  · rw [hsettled]
    rfl
  · rw [hsettled]
    rfl

theorem perform_bootstrap :
    c.perform .bootstrap = (c.bootstrap.1, .request c.bootstrap.2) := rfl

theorem perform_submit : c.perform .submit = (c.submit.1, .request c.submit.2) := rfl

theorem perform_apply (number : Nat) (event : TurnEvent) :
    c.perform (.apply number event) =
      ((c.apply number event).1, .applied (c.apply number event).2) := rfl

theorem perform_setup (action : Action) :
    (c.perform action).1.greetingPrompt = c.greetingPrompt ∧
      (c.perform action).1.fallbacks = c.fallbacks := by
  cases action with
  | setInput text => exact ⟨rfl, rfl⟩
  | appendInput text => exact ⟨rfl, rfl⟩
  | bootstrap =>
    rw [perform_bootstrap]
    rcases c.bootstrap_cases with ⟨-, h⟩ | ⟨-, -, h⟩ <;> rw [h] <;> exact ⟨rfl, rfl⟩
  | submit =>
    rw [perform_submit]
    rcases c.submit_cases with ⟨-, h⟩ | ⟨-, -, h⟩ <;> rw [h] <;> exact ⟨rfl, rfl⟩
  | apply number event =>
    rw [perform_apply]
    rcases c.apply_cases number event with
        ⟨-, h⟩ | ⟨_, -, -, ⟨_, -, -, h⟩ | ⟨-, h⟩ | ⟨_, -, h⟩⟩ <;>
      rw [h] <;> exact ⟨rfl, rfl⟩

theorem run_cons (action : Action) (rest : List Action) :
    c.run (action :: rest) =
      (((c.perform action).1.run rest).1,
        (c.perform action).2 :: ((c.perform action).1.run rest).2) := rfl

theorem run_setup (actions : List Action) :
    (c.run actions).1.greetingPrompt = c.greetingPrompt ∧
      (c.run actions).1.fallbacks = c.fallbacks := by
  induction actions generalizing c with
  | nil => exact ⟨rfl, rfl⟩
  | cons action rest ih =>
    obtain ⟨hprompt, hfallbacks⟩ := ih (c.perform action).1
    rw [run_cons, hprompt, hfallbacks]
    exact c.perform_setup action

end GuidedChat.Conversation
