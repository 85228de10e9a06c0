import GuidedChat.Dialogue
import GuidedChat.Proofs.Conversation.Turns

/-! # A dialogue holds a conversation in place

A dialogue and the conversation that it holds do the same on every action and give back the same
(`Holds.perform`), and so they do on every run (`Holds.run`). This is what keeps the list of
messages, the phase and the index of the pending reply together, though they are changed one by one:
the reply is where the index says, and no index is out of range. A conversation forgets its last
failure at the end of a turn and a dialogue at the beginning, which comes to the same, as nothing
has failed while a reply is pending. -/

namespace GuidedChat.Dialogue

/-- A conversation as it is held in place. -/
def ofConversation (c : Conversation) : Dialogue where
  messages := c.messages
  input := c.input
  phase := c.phase
  greetingPrompt := c.greetingPrompt
  bootstrapped := c.bootstrapped
  turn := c.turn
  placeholder := c.pendingIndex
  lastFailure := c.lastFailure
  fallbacks := c.fallbacks

structure Holds (d : Dialogue) (c : Conversation) : Prop where
  eq_of : d = ofConversation c
  unfailed : c.pending ≠ none → c.lastFailure = none

def fresh (greetingPrompt : String) (fallbacks : Fallbacks) : Dialogue :=
  { greetingPrompt, fallbacks }

theorem holds_fresh (greetingPrompt : String) (fallbacks : Fallbacks) :
    (fresh greetingPrompt fallbacks).Holds (Conversation.fresh greetingPrompt fallbacks) :=
  ⟨rfl, fun _ => rfl⟩

variable {d : Dialogue} {c : Conversation}

/-! ## Views -/

theorem isBusy_ofConversation (c : Conversation) : (ofConversation c).isBusy = c.isBusy := by
  rw [isBusy, Bool.eq_iff_iff, decide_eq_true_iff]
  show ¬ c.phase = .idle ↔ _
  rw [c.phase_eq_idle_iff, Bool.not_eq_false]

theorem canSubmit_ofConversation (c : Conversation) :
    (ofConversation c).canSubmit = c.canSubmit := by
  rw [canSubmit, isBusy_ofConversation]
  rfl

theorem pendingRole_ofConversation (c : Conversation) :
    (ofConversation c).pendingRole = .ok c.pendingRole := by
  rw [c.pendingRole_eq]
  cases hpending : c.pending with
  | none => simp [pendingRole, ofConversation, Conversation.pendingIndex, hpending]
  | some pending =>
    simp [pendingRole, ofConversation, Conversation.pendingIndex, Conversation.messages, message,
      hpending, Except.map, Message.assistant]

/-! ## Requests -/

theorem Holds.bootstrap (h : d.Holds c) :
    d.bootstrap.2 = c.bootstrap.2 ∧ d.bootstrap.1.Holds c.bootstrap.1 := by
  obtain ⟨rfl, hunfailed⟩ := h
  rcases c.bootstrap_cases with ⟨hrefused, hsame⟩ | ⟨hfirst, hidle, hgranted⟩
  · have hnot : ((ofConversation c).bootstrapped || (ofConversation c).isBusy) = true := by
      rw [isBusy_ofConversation, Bool.or_eq_true]
      simpa [ofConversation, Conversation.isBusy, Option.isSome_iff_ne_none] using hrefused
    rw [hsame, Dialogue.bootstrap, if_pos hnot]
    exact ⟨rfl, rfl, hunfailed⟩
  · have hnot : ¬ ((ofConversation c).bootstrapped || (ofConversation c).isBusy) = true := by
      rw [isBusy_ofConversation]
      simp [ofConversation, Conversation.isBusy, hfirst, hidle]
    rw [hgranted, Dialogue.bootstrap, if_neg hnot]
    refine ⟨rfl, ?_, fun _ => rfl⟩
    simp [ofConversation, beginTurn, Conversation.begin, Conversation.messages, Conversation.phase,
      Conversation.pendingIndex, hidle]

theorem Holds.submit (h : d.Holds c) :
    d.submit.2 = c.submit.2 ∧ d.submit.1.Holds c.submit.1 := by
  obtain ⟨rfl, hunfailed⟩ := h
  rcases c.submit_cases with ⟨hcannot, hsame⟩ | ⟨hidle, htext, hgranted⟩
  · rw [hsame, Dialogue.submit, canSubmit_ofConversation, hcannot, if_neg Bool.false_ne_true]
    exact ⟨rfl, rfl, hunfailed⟩
  · rw [hgranted, Dialogue.submit, canSubmit_ofConversation, c.canSubmit_iff.mpr ⟨hidle, htext⟩,
      if_pos rfl]
    refine ⟨?_, ?_, fun _ => rfl⟩
    · simp [ofConversation, beginTurn, Conversation.messages, hidle]
    · simp [ofConversation, beginTurn, Conversation.begin, Conversation.messages,
        Conversation.phase, Conversation.pendingIndex, hidle]

/-! ## Events -/

/-- The pending reply is found where it should be. -/
theorem rewrite_ofConversation {pending : Pending} (hpending : c.pending = some pending)
    (content : String → String) :
    (ofConversation c).rewrite c.settled.length content =
      .ok (ofConversation { c with
        pending := some { pending with text := content pending.text } }) := by
  have hfound : (ofConversation c).message c.settled.length =
      .ok (.assistant pending.text) := by
    simp [message, ofConversation, Conversation.messages, hpending]
  rw [rewrite, hfound]
  obtain ⟨kind, text⟩ := pending
  cases kind <;>
    simp [ofConversation, Conversation.messages, Conversation.phase, Conversation.pendingIndex,
      hpending, bind, Except.bind, pure, Except.pure, Message.assistant]

theorem inPhase_eq {pending : Pending} (hpending : c.pending = some pending)
    (fallbacks : Fallbacks) (kind : FailureKind) :
    fallbacks.inPhase c.phase kind = fallbacks.text pending.kind kind := by
  obtain ⟨turnKind, text⟩ := pending
  rw [Conversation.phase, hpending]
  cases turnKind <;> cases kind <;> rfl

theorem apply_refused {number : Nat} {event : TurnEvent}
    (h : number ≠ c.turn ∨ c.pending = none ∨ event = .chunk "") :
    (ofConversation c).apply number event = .ok (ofConversation c, false) := by
  have hplace : (ofConversation c).placeholder = c.pending.map fun _ => c.settled.length := rfl
  unfold Dialogue.apply
  rcases h with hother | hidle | rfl
  · exact if_pos hother
  · rw [hplace, hidle, Option.map_none, ite_self]
  · rw [hplace]
    cases c.pending <;> simp

/-- An event of the pending turn comes to the place of its reply. -/
theorem apply_current {pending : Pending} (hpending : c.pending = some pending) (event : TurnEvent) :
    (ofConversation c).apply c.turn event =
      match event with
      | .chunk text =>
        if text = "" then .ok (ofConversation c, false)
        else .ok (ofConversation { c with
          pending := some { pending with text := pending.text ++ text } }, true)
      | .finished => .ok ({ ofConversation c with placeholder := none, phase := .idle }, true)
      | .failed kind =>
        .ok ({ ofConversation { c with
          pending := some { pending with text := c.fallbacks.text pending.kind kind } } with
            placeholder := none, lastFailure := some kind, phase := .idle }, true) := by
  have hplace : (ofConversation c).placeholder = some c.settled.length := by
    simp [ofConversation, Conversation.pendingIndex, hpending]
  have hphase : (ofConversation c).fallbacks.inPhase (ofConversation c).phase =
      c.fallbacks.text pending.kind := funext (inPhase_eq hpending c.fallbacks)
  rw [Dialogue.apply, if_neg (by simp [ofConversation]), hplace]
  cases event with
  | chunk text => simp only [rewrite_ofConversation hpending]; rfl
  | finished => rfl
  | failed kind => simp only [hphase, rewrite_ofConversation hpending]; rfl

theorem Holds.apply (h : d.Holds c) (number : Nat) (event : TurnEvent) :
    ∃ next, d.apply number event = .ok (next, (c.apply number event).2) ∧
      next.Holds (c.apply number event).1 := by
  obtain ⟨rfl, hunfailed⟩ := h
  rcases c.apply_cases number event with ⟨hrefused, hsame⟩ |
    ⟨pending, rfl, hpending, ⟨text, htext, rfl, hgrown⟩ | ⟨rfl, hended⟩ | ⟨kind, rfl, hended⟩⟩
  · rw [hsame]
    exact ⟨_, apply_refused hrefused, rfl, hunfailed⟩
  · rw [hgrown, apply_current hpending]
    refine ⟨_, if_neg htext, rfl, fun _ => hunfailed ?_⟩
    simp [hpending]
  · rw [hended, apply_current hpending]
    refine ⟨_, rfl, ?_, fun _ => rfl⟩
    have hfailure : c.lastFailure = none := hunfailed (by simp [hpending])
    simp [ofConversation, Conversation.settle, Conversation.messages, Conversation.phase,
      Conversation.pendingIndex, hpending, hfailure]
  · rw [hended, apply_current hpending]
    refine ⟨_, rfl, ?_, fun hbusy => absurd rfl hbusy⟩
    simp [ofConversation, Conversation.settle, Conversation.messages, Conversation.phase,
      Conversation.pendingIndex]

/-! ## Runs -/

theorem Holds.perform (h : d.Holds c) (action : Conversation.Action) :
    ∃ next, d.perform action = .ok (next, (c.perform action).2) ∧
      next.Holds (c.perform action).1 := by
  cases action with
  | setInput text =>
    refine ⟨_, rfl, ?_, h.unfailed⟩
    rw [h.eq_of]
    rfl
  | appendInput text =>
    refine ⟨_, rfl, ?_, h.unfailed⟩
    rw [h.eq_of]
    rfl
  | bootstrap =>
    obtain ⟨hsame, hnext⟩ := h.bootstrap
    rw [c.perform_bootstrap, ← hsame]
    exact ⟨_, rfl, hnext⟩
  | submit =>
    obtain ⟨hsame, hnext⟩ := h.submit
    rw [c.perform_submit, ← hsame]
    exact ⟨_, rfl, hnext⟩
  | apply number event =>
    obtain ⟨next, hnext, hholds⟩ := h.apply number event
    rw [Dialogue.perform, hnext]
    exact ⟨next, rfl, hholds⟩

/-- A dialogue never fails, and does what the conversation does that it holds. -/
theorem Holds.run (h : d.Holds c) (actions : List Conversation.Action) :
    ∃ last, d.run actions = .ok (last, (c.run actions).2) ∧ last.Holds (c.run actions).1 := by
  induction actions generalizing d c with
  | nil => exact ⟨d, rfl, h⟩
  | cons action rest ih =>
    obtain ⟨next, hnext, hholds⟩ := h.perform action
    obtain ⟨last, hlast, hrest⟩ := ih hholds
    rw [Dialogue.run, hnext]
    refine ⟨last, ?_, hrest⟩
    show (next.run rest).bind _ = _
    rw [hlast]
    rfl

end GuidedChat.Dialogue
