import GuidedChat.Proofs.Conversation.Counts
import GuidedChat.Proofs.Dialogue.Holds
import Mathlib.Data.List.DropRight
import Mathlib.Data.List.Induction

/-! # The shape of every dialogue

What a view may rely on, whatever was done before and in whatever order: no index is out of range; a
reply is pending exactly while the dialogue is busy, and it is the last message; questions are
trimmed text and each has its reply right after it; there is at most one greeting; requests are
numbered from one; and the last failure is that of the latest turn (`sound_run`). The fields of a
dialogue go together because it holds a conversation; the messages are read off the turns of that
conversation, and its failure off the events taken in since the latest request
(`lastFailure_run`). -/

namespace GuidedChat

namespace Conversation

/-- The event of a step that was taken in. -/
def taken? : Action × Outcome → Option TurnEvent
  | (.apply _ event, .applied true) => some event
  | _ => none

/-- The events that were taken in since the latest request. -/
def latestEvents (steps : List (Action × Outcome)) : List TurnEvent :=
  (steps.rtakeWhile (·.2.request?.isNone)).filterMap taken?

end Conversation

namespace Dialogue

open Conversation (Action Outcome granted latestEvents taken? unasked)

/-- What holds of a dialogue after some actions and what they gave back. -/
structure Sound (d : Dialogue) (steps : List (Action × Outcome)) : Prop where
  placed_iff_busy : d.placeholder.isSome ↔ d.phase ≠ .idle
  placed_last : ∀ i, d.placeholder = some i →
    i + 1 = d.messages.length ∧ ∃ text, d.messages[i]? = some (.assistant text)
  role_in_range : d.pendingRole = .ok (d.placeholder.map fun _ => .assistant)
  apply_in_range : ∀ turn event, ∃ applied, d.apply turn event = .ok applied
  length_messages :
    d.messages.length = 2 * granted .submit steps + granted .bootstrap steps
  greeted_once : granted .bootstrap steps ≤ 1
  questions : ∀ i content, d.messages[i]? = some (.user content) →
    content ≠ "" ∧ Text.trim content = content ∧
      ∃ reply, d.messages[i + 1]? = some (.assistant reply)
  unasked_replies : unasked none d.messages = granted .bootstrap steps
  numbers : (steps.filterMap (·.2.request?)).map (·.turn) =
    List.range' 1 (granted .submit steps + granted .bootstrap steps)
  last_failure : ∀ kind, d.lastFailure = some kind ↔
    d.phase = .idle ∧ (latestEvents steps).getLast? = some (.failed kind)

/-! ## The place of the pending reply -/

variable {d : Dialogue} {c : Conversation} {steps : List (Action × Outcome)}

theorem Holds.placed_iff_busy (h : d.Holds c) : d.placeholder.isSome ↔ d.phase ≠ .idle := by
  rw [h.eq_of]
  show c.pendingIndex.isSome ↔ ¬ c.phase = .idle
  rw [c.phase_eq_idle_iff, Conversation.isBusy, Conversation.pendingIndex, Option.isSome_map,
    Bool.not_eq_false]

theorem Holds.placed_last (h : d.Holds c) {i : Nat} (hplace : d.placeholder = some i) :
    i + 1 = d.messages.length ∧ ∃ text, d.messages[i]? = some (.assistant text) := by
  rw [h.eq_of] at hplace ⊢
  obtain ⟨pending, hpending, rfl⟩ := Option.map_eq_some_iff.mp hplace
  refine ⟨?_, pending.text, ?_⟩
  · simp [ofConversation, Conversation.messages, hpending]
  · simp [ofConversation, Conversation.messages, hpending]

theorem Holds.pendingRole_eq (h : d.Holds c) :
    d.pendingRole = .ok (d.placeholder.map fun _ => .assistant) := by
  rw [h.eq_of, pendingRole_ofConversation, c.pendingRole_eq]
  show _ = Except.ok (c.pendingIndex.map _)
  rw [Conversation.pendingIndex, Option.map_map]
  rfl

/-! ## The last failure -/

theorem latestEvents_concat (steps : List (Action × Outcome)) (last : Action × Outcome) :
    latestEvents (steps ++ [last]) =
      if last.2.request?.isSome then [] else latestEvents steps ++ (taken? last).toList := by
  rw [latestEvents, List.rtakeWhile_concat]
  cases last.2.request? with
  | some request => rfl
  | none => cases htaken : taken? last <;> simp [htaken, latestEvents]

/-- A step that grants no request and takes in no event. -/
theorem latestEvents_idle {last : Action × Outcome} (hrequest : last.2.request? = none)
    (htaken : taken? last = none) : latestEvents (steps ++ [last]) = latestEvents steps := by
  rw [latestEvents_concat, hrequest, htaken]
  exact List.append_nil _

theorem latestEvents_taken (number : Nat) (event : TurnEvent) :
    latestEvents (steps ++ [(.apply number event, .applied true)]) =
      latestEvents steps ++ [event] := by
  rw [latestEvents_concat]
  rfl

/-- The last failure is told by the last event, if that is one of the latest turn. -/
theorem lastFailure_perform (hunfailed : c.pending ≠ none → c.lastFailure = none)
    (h : c.lastFailure = (latestEvents steps).getLast?.bind TurnEvent.failure?) (action : Action) :
    (c.perform action).1.lastFailure =
      (latestEvents (steps ++ [(action, (c.perform action).2)])).getLast?.bind
        TurnEvent.failure? := by
  cases action with
  | setInput text | appendInput text =>
    rw [latestEvents_idle rfl rfl]
    exact h
  | bootstrap =>
    rw [c.perform_bootstrap]
    rcases c.bootstrap_cases with ⟨-, hrefused⟩ | ⟨-, -, hgranted⟩
    · rw [hrefused, latestEvents_idle rfl rfl]
      exact h
    · rw [hgranted, latestEvents_concat]
      rfl
  | submit =>
    rw [c.perform_submit]
    rcases c.submit_cases with ⟨-, hrefused⟩ | ⟨-, -, hgranted⟩
    · rw [hrefused, latestEvents_idle rfl rfl]
      exact h
    · rw [hgranted, latestEvents_concat]
      rfl
  | apply number event =>
    rw [c.perform_apply]
    rcases c.apply_cases number event with ⟨-, hrefused⟩ |
      ⟨pending, -, hpending, ⟨text, -, rfl, hgrown⟩ | ⟨rfl, hended⟩ | ⟨kind, rfl, hended⟩⟩
    · rw [hrefused, latestEvents_idle rfl rfl]
      exact h
    · rw [hgrown, latestEvents_taken, List.getLast?_concat]
      exact hunfailed (by simp [hpending])
    · rw [hended, latestEvents_taken, List.getLast?_concat]
      rfl
    · rw [hended, latestEvents_taken, List.getLast?_concat]
      rfl

theorem lastFailure_run (greetingPrompt : String) (fallbacks : Fallbacks)
    (actions : List Action) :
    ((Conversation.fresh greetingPrompt fallbacks).run actions).1.lastFailure =
      (latestEvents (actions.zip
        ((Conversation.fresh greetingPrompt fallbacks).run actions).2)).getLast?.bind
          TurnEvent.failure? := by
  induction actions using List.reverseRec with
  | nil => rfl
  | append_singleton before last ih =>
    obtain ⟨_, -, hholds⟩ := (holds_fresh greetingPrompt fallbacks).run before
    rw [Conversation.zip_run_concat, Conversation.run_concat]
    exact lastFailure_perform hholds.unfailed ih last

theorem Holds.lastFailure_iff (h : d.Holds c)
    (hfailure : c.lastFailure = (latestEvents steps).getLast?.bind TurnEvent.failure?)
    (kind : FailureKind) :
    d.lastFailure = some kind ↔
      d.phase = .idle ∧ (latestEvents steps).getLast? = some (.failed kind) := by
  have hlast : (latestEvents steps).getLast?.bind TurnEvent.failure? = some kind ↔
      (latestEvents steps).getLast? = some (.failed kind) := by
    rcases (latestEvents steps).getLast? with _ | ⟨_ | _ | _⟩ <;> simp [TurnEvent.failure?]
  rw [h.eq_of, ← hlast, ← hfailure]
  constructor
  · intro hsome
    refine ⟨c.phase_eq_idle_iff.mpr ?_, hsome⟩
    cases hpending : c.pending with
    | none => rw [Conversation.isBusy, hpending, Option.isSome_none]
    | some pending =>
      have hnone : c.lastFailure = none := h.unfailed (by simp [hpending])
      cases hnone.symm.trans hsome
  · exact fun hidle => hidle.2

/-! ## The main statement -/

/-- **Every dialogue is sound**, whatever was done to it since it was fresh; it has failed nowhere.
And it holds the conversation to which the same was done, with the same results. -/
theorem sound_run (greetingPrompt : String) (fallbacks : Fallbacks) (actions : List Action) :
    ∃ d outcomes, (fresh greetingPrompt fallbacks).run actions = .ok (d, outcomes) ∧
      d.Sound (actions.zip outcomes) ∧
      d.Holds ((Conversation.fresh greetingPrompt fallbacks).run actions).1 ∧
      outcomes = ((Conversation.fresh greetingPrompt fallbacks).run actions).2 := by
  obtain ⟨d, hrun, hholds⟩ := (holds_fresh greetingPrompt fallbacks).run actions
  refine ⟨d, _, hrun, ?_, hholds, rfl⟩
  have hfailure := lastFailure_run greetingPrompt fallbacks actions
  have hmatches := Conversation.matches_turns greetingPrompt fallbacks actions
  have hsubmits := Conversation.count_kind_turns greetingPrompt fallbacks actions .reply
  have hbootstraps := Conversation.count_kind_turns greetingPrompt fallbacks actions .greeting
  have hnumbers := Conversation.map_turn_requests_zip greetingPrompt fallbacks actions
  simp only [Conversation.asking] at hsubmits hbootstraps
  generalize Conversation.turns greetingPrompt fallbacks actions = turns at *
  generalize (Conversation.fresh greetingPrompt fallbacks).run actions = past at *
  have hmessages : d.messages = turns.flatMap (Turn.messages past.1.fallbacks) := by
    rw [hholds.eq_of]
    exact hmatches.messages_eq
  exact {
    placed_iff_busy := hholds.placed_iff_busy
    placed_last := fun _ => hholds.placed_last
    role_in_range := hholds.pendingRole_eq
    apply_in_range := by
      intro turn event
      obtain ⟨next, hnext, -⟩ := hholds.apply turn event
      exact ⟨_, hnext⟩
    length_messages := by
      rw [hmessages, Conversation.length_flatMap_messages, hsubmits, hbootstraps]
    greeted_once := by
      have hgreeted := hmatches.greeted
      rw [hbootstraps] at hgreeted
      split at hgreeted <;> omega
    questions := by
      intro i content h
      rw [hmessages] at h ⊢
      obtain ⟨⟨turn, hmem, hkind, rfl⟩, hreply⟩ :=
        Conversation.question_flatMap_messages _ _ i content h
      obtain ⟨hne, htrim⟩ := hmatches.asked turn hmem hkind
      exact ⟨hne, htrim, hreply⟩
    unasked_replies := by
      rw [hmessages, Conversation.unasked_flatMap_messages _ _ (by simp), hbootstraps]
    numbers := hnumbers
    last_failure := hholds.lastFailure_iff hfailure }

end Dialogue

end GuidedChat
