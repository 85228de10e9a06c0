import GuidedChat.Proofs.Conversation.Counts

/-! # Stale events can be left out

Whoever sends the requests of a conversation knows the number of the latest one and whether an
end of its turn has been reported. An event of any other turn, or after that end, is stale:
leaving all stale events out of a run changes neither where it ends nor what the other actions
give back (`run_timely`). What is known of the latest request describes the conversation
(`Awaited.Describes`); it says that nothing is pending where an event would be stale, and each
action preserves it. -/

namespace GuidedChat.Conversation

/-- What is known of the latest request: its number, and whether its turn was reported to be
over. -/
structure Awaited where
  number : Option Nat := none
  ended : Bool := false
  deriving DecidableEq, Repr

namespace Awaited

/-- What is known after one more action, with what it gave back. -/
def next (awaited : Awaited) : Action × Outcome → Awaited
  | (_, .request (some request)) => ⟨some request.turn, false⟩
  | (.apply number event, _) =>
    if awaited.number = some number ∧ event.isTerminal then { awaited with ended := true }
    else awaited
  | _ => awaited

theorem next_apply (awaited : Awaited) (number : Nat) (event : TurnEvent) (changed : Bool) :
    awaited.next (.apply number event, .applied changed) =
      if awaited.number = some number ∧ event.isTerminal then { awaited with ended := true }
      else awaited := rfl

/-- Whether an action reports an event of another turn than the latest, or one of a turn that
is over. -/
def isStale (awaited : Awaited) : Action → Bool
  | .apply number _ => awaited.number ≠ some number || awaited.ended
  | .setInput _ | .appendInput _ | .bootstrap | .submit => false

/-- What is left of the steps of a run without the stale events. -/
def timely (awaited : Awaited) : List (Action × Outcome) → List (Action × Outcome)
  | [] => []
  | step :: rest =>
    if awaited.isStale step.1 then (awaited.next step).timely rest
    else step :: (awaited.next step).timely rest

/-- Where an event would be stale nothing is pending in its turn: there is no request yet, or
its turn is over, or another turn is the current one. -/
structure Describes (awaited : Awaited) (c : Conversation) : Prop where
  turn : ∀ number, awaited.number = some number → c.turn = number
  idle : awaited.number = none ∨ awaited.ended = true → c.pending = none

theorem describes_fresh (greetingPrompt : String) (fallbacks : Fallbacks) :
    Describes {} (fresh greetingPrompt fallbacks) where
  turn := by simp
  idle _ := rfl

variable {awaited : Awaited} {c : Conversation}

theorem describes_begin (c : Conversation) (kind : TurnKind) :
    Describes ⟨some (c.turn + 1), false⟩ (c.begin kind) where
  turn := by simp [begin]
  idle := by simp

theorem Describes.apply_eq (h : awaited.Describes c) {number : Nat} {event : TurnEvent}
    (hstale : awaited.isStale (.apply number event) = true) :
    c.apply number event = (c, false) := by
  have hrefused : number ≠ c.turn ∨ c.pending = none := by
    cases hended : awaited.ended with
    | true => exact .inr (h.idle (.inr hended))
    | false =>
      cases hnumber : awaited.number with
      | none => exact .inr (h.idle (.inl hnumber))
      | some latest =>
        left
        rintro rfl
        have hlatest := h.turn latest hnumber
        simp [isStale, hended, hnumber, hlatest] at hstale
  exact c.apply_refused hrefused event

theorem Describes.perform (h : awaited.Describes c) (action : Action) :
    (awaited.next (action, (c.perform action).2)).Describes (c.perform action).1 := by
  cases action with
  | setInput text => exact ⟨h.turn, h.idle⟩
  | appendInput text => exact ⟨h.turn, h.idle⟩
  | bootstrap =>
    rw [perform_bootstrap]
    rcases c.bootstrap_cases with ⟨-, hrefused⟩ | ⟨-, -, hgranted⟩
    · rw [hrefused]
      exact h
    · rw [hgranted]
      exact describes_begin { c with bootstrapped := true } .greeting
  | submit =>
    rw [perform_submit]
    rcases c.submit_cases with ⟨-, hrefused⟩ | ⟨-, -, hgranted⟩
    · rw [hrefused]
      exact h
    · rw [hgranted]
      exact describes_begin { c with input := "", settled := _ } .reply
  | apply number event =>
    rw [perform_apply]
    obtain ⟨hsame, -, -, hidle⟩ := c.apply_keeps number event
    have hturn : ∀ latest, awaited.number = some latest →
        (c.apply number event).1.turn = latest := fun latest hlatest =>
      hsame.trans (h.turn latest hlatest)
    -- an end is known to have come only where it was of the latest turn
    by_cases hend : awaited.number = some number ∧ event.isTerminal
    · have hcurrent : number = c.turn := (h.turn number hend.1).symm
      rw [next_apply, if_pos hend]
      exact ⟨hturn, fun _ => c.apply_terminal hcurrent hend.2⟩
    · rw [next_apply, if_neg hend]
      exact ⟨hturn, fun hover => hidle (h.idle hover)⟩

theorem Describes.run_kept (h : awaited.Describes c) (actions : List Action) :
    let kept := awaited.timely (actions.zip (c.run actions).2)
    c.run (kept.map Prod.fst) = ((c.run actions).1, kept.map Prod.snd) := by
  induction actions generalizing awaited c with
  | nil => rfl
  | cons action rest ih =>
    have hrest := ih (h.perform action)
    simp only [run_cons, List.zip_cons_cons, timely] at hrest ⊢
    by_cases hstale : awaited.isStale action = true
    · rw [if_pos hstale]
      cases action with
      | setInput text | appendInput text | bootstrap | submit => cases hstale
      | apply number event =>
        have hsame : (c.perform (.apply number event)).1 = c := by
          rw [perform_apply, h.apply_eq hstale]
        rw [hsame] at hrest ⊢
        exact hrest
    · rw [if_neg hstale, List.map_cons, List.map_cons, run_cons, hrest]

end Awaited

theorem pending_ne_of_taken {c : Conversation} {number : Nat} {event : TurnEvent}
    (h : (c.apply number event).2 = true) : (c.apply number event).1.pending ≠ c.pending := by
  rcases c.apply_cases number event with
      ⟨-, hsame⟩ | ⟨pending, -, hpending, ⟨text, htext, -, hgrown⟩ | ⟨-, hended⟩ | ⟨_, -, hended⟩⟩
  · rw [hsame] at h
    cases h
  · rw [hgrown, hpending]
    intro hsame
    have htexts : pending.text ++ text = pending.text :=
      congrArg Pending.text (Option.some.inj hsame)
    exact htext (by simpa using htexts)
  · rw [hended, hpending]
    exact fun hsame => Option.some_ne_none _ hsame.symm
  · rw [hended, hpending]
    exact fun hsame => Option.some_ne_none _ hsame.symm

theorem apply_unchanged_iff (c : Conversation) (number : Nat) (event : TurnEvent) :
    (c.apply number event).2 = false ↔ (c.apply number event).1 = c := by
  constructor
  · intro h
    rcases c.apply_cases number event with
        ⟨-, hsame⟩ | ⟨_, -, -, ⟨_, -, -, htaken⟩ | ⟨-, htaken⟩ | ⟨_, -, htaken⟩⟩
    · rw [hsame]
    all_goals
      rw [htaken] at h
      cases h
  · intro hsame
    rw [← Bool.not_eq_true]
    intro htaken
    exact pending_ne_of_taken htaken (by rw [hsame])

/-- **Stale events can be left out.** A run without the events of turns that are not the latest
or are over ends in the same conversation, and every action left gives back what it gave back
before; and an event tells that nothing changed exactly if nothing did. -/
theorem run_timely (greetingPrompt : String) (fallbacks : Fallbacks) (actions : List Action) :
    let c := fresh greetingPrompt fallbacks
    let kept := Awaited.timely {} (actions.zip (c.run actions).2)
    c.run (kept.map Prod.fst) = ((c.run actions).1, kept.map Prod.snd) ∧
      ∀ number event, ((c.run actions).1.apply number event).2 = false ↔
        ((c.run actions).1.apply number event).1 = (c.run actions).1 :=
  ⟨(Awaited.describes_fresh greetingPrompt fallbacks).run_kept actions,
    apply_unchanged_iff _⟩

end GuidedChat.Conversation
