import GuidedChat.Proofs.Conversation.Turns

/-! # What a run grants, in numbers

How many requests an action was granted is how many turns of its kind there are (`count_openings`),
and their numbers are those from one on (`map_turn_requests`). From the turns the messages are
counted, and it is seen what comes before and after each of them. -/

namespace GuidedChat.Conversation

/-- The request that came of an action, if one was granted. -/
def Outcome.request? : Outcome → Option TurnRequest
  | .request given => given
  | .done | .applied _ => none

/-- How often `action` was granted a request. -/
def granted (action : Action) (steps : List (Action × Outcome)) : Nat :=
  steps.countP fun step => step.1 = action && step.2.request?.isSome

/-- How many replies do not come right after a message of the user, where `before` spoke
before the first message. -/
def unasked (before : Option Role) : List Message → Nat
  | [] => 0
  | message :: rest =>
    (if message.role = .assistant ∧ before ≠ some .user then 1 else 0) +
      unasked (some message.role) rest

/-! ## Counting turns and requests -/

/-- The action that asks for a turn of a kind. -/
def asking : TurnKind → Action
  | .greeting => .bootstrap
  | .reply => .submit

theorem count_opens (c : Conversation) (action : Action) (kind : TurnKind) :
    ((c.opens action).map Prod.fst).count kind =
      granted (asking kind) [(action, (c.perform action).2)] := by
  cases action with
  | setInput text => simp [opens, granted, perform, Outcome.request?]
  | appendInput text => simp [opens, granted, perform, Outcome.request?]
  | bootstrap =>
    rw [perform_bootstrap, opens]
    cases c.bootstrap.2 <;> cases kind <;> simp [granted, asking, Outcome.request?]
  | submit =>
    rw [perform_submit, opens]
    cases c.submit.2 <;> cases kind <;> simp [granted, asking, Outcome.request?]
  | apply number event =>
    rw [perform_apply]
    cases kind <;> simp [opens, granted, asking]

theorem granted_cons (action : Action) (step : Action × Outcome)
    (steps : List (Action × Outcome)) :
    granted action (step :: steps) = granted action [step] + granted action steps := by
  simp [granted, List.countP_cons, Nat.add_comm]

theorem count_openings (c : Conversation) (actions : List Action) (kind : TurnKind) :
    ((c.openings actions).map Prod.fst).count kind =
      granted (asking kind) (actions.zip (c.run actions).2) := by
  induction actions generalizing c with
  | nil => simp [openings, granted]
  | cons action rest ih =>
    rw [openings, List.map_append, List.count_append, ih, count_opens, run_cons,
      List.zip_cons_cons, granted_cons _ (action, _) (rest.zip _)]

/-- Turns of a kind are as many as requests granted to the action that asks for it. -/
theorem count_kind_turns (greetingPrompt : String) (fallbacks : Fallbacks)
    (actions : List Action) (kind : TurnKind) :
    ((turns greetingPrompt fallbacks actions).map Turn.kind).count kind =
      granted (asking kind)
        (actions.zip ((fresh greetingPrompt fallbacks).run actions).2) := by
  rw [← count_openings, ← map_opening_turns, List.map_map]
  rfl

theorem count_kinds (turns : List Turn) :
    (turns.map Turn.kind).count .reply + (turns.map Turn.kind).count .greeting =
      turns.length := by
  induction turns with
  | nil => rfl
  | cons turn turns ih =>
    simp only [List.map_cons, List.count_cons, List.length_cons]
    cases turn.kind <;> simp <;> omega

/-- A request carries the next number, and only requests count. -/
theorem perform_turn (c : Conversation) (action : Action) :
    (c.perform action).1.turn = c.turn + (c.perform action).2.request?.toList.length ∧
      ∀ request, (c.perform action).2.request? = some request → request.turn = c.turn + 1 := by
  cases action with
  | setInput text => simp [perform, setInput, Outcome.request?]
  | appendInput text => simp [perform, appendInput, Outcome.request?]
  | bootstrap =>
    rw [perform_bootstrap]
    rcases c.bootstrap_cases with ⟨-, h⟩ | ⟨-, -, h⟩ <;> simp [h, Outcome.request?, begin]
  | submit =>
    rw [perform_submit]
    rcases c.submit_cases with ⟨-, h⟩ | ⟨-, -, h⟩ <;> simp [h, Outcome.request?, begin]
  | apply number event =>
    rw [perform_apply]
    rcases c.apply_cases number event with ⟨-, h⟩ | ⟨_, -, -, ⟨_, -, -, h⟩ | ⟨-, h⟩ | ⟨_, -, h⟩⟩ <;>
      simp [h, Outcome.request?, settle]

theorem map_turn_requests (c : Conversation) (actions : List Action) :
    ((c.run actions).2.filterMap Outcome.request?).map (·.turn) =
        List.range' (c.turn + 1) ((c.run actions).2.filterMap Outcome.request?).length ∧
      (c.run actions).1.turn = c.turn + ((c.run actions).2.filterMap Outcome.request?).length := by
  induction actions generalizing c with
  | nil => simp [run]
  | cons action rest ih =>
    obtain ⟨hnumbers, hcount⟩ := ih (c.perform action).1
    obtain ⟨hnext, hnumber⟩ := c.perform_turn action
    rw [run_cons]
    cases hrequest : (c.perform action).2.request? with
    | none =>
      rw [hrequest] at hnext
      simp only [List.filterMap_cons, hrequest, hnext] at hnumbers hcount ⊢
      exact ⟨hnumbers, hcount⟩
    | some request =>
      rw [hrequest] at hnext
      simp only [List.filterMap_cons, hrequest, hnext] at hnumbers hcount ⊢
      rw [List.map_cons, hnumbers, hnumber request hrequest, hcount]
      simp [List.range'_succ]
      omega

theorem length_outcomes (c : Conversation) (actions : List Action) :
    (c.run actions).2.length = actions.length := by
  induction actions generalizing c with
  | nil => rfl
  | cons action rest ih => rw [run_cons, List.length_cons, List.length_cons, ih]

theorem run_concat (c : Conversation) (actions : List Action) (action : Action) :
    c.run (actions ++ [action]) =
      (((c.run actions).1.perform action).1,
        (c.run actions).2 ++ [((c.run actions).1.perform action).2]) := by
  rw [run_append]
  rfl

theorem zip_run_concat (c : Conversation) (actions : List Action) (action : Action) :
    (actions ++ [action]).zip (c.run (actions ++ [action])).2 =
      actions.zip (c.run actions).2 ++ [(action, ((c.run actions).1.perform action).2)] := by
  rw [run_concat, List.zip_append (c.length_outcomes actions).symm]
  rfl

theorem requests_zip (c : Conversation) (actions : List Action) :
    (actions.zip (c.run actions).2).filterMap (·.2.request?) =
      (c.run actions).2.filterMap Outcome.request? := by
  have h : (actions.zip (c.run actions).2).map Prod.snd = (c.run actions).2 :=
    List.map_snd_zip (Nat.le_of_eq (c.length_outcomes actions))
  conv => rhs; rw [← h, List.filterMap_map]
  rfl

/-- Requests are numbered from one, and there are as many as submits and greetings that were
granted. -/
theorem map_turn_requests_zip (greetingPrompt : String) (fallbacks : Fallbacks)
    (actions : List Action) :
    let steps := actions.zip ((fresh greetingPrompt fallbacks).run actions).2
    (steps.filterMap (·.2.request?)).map (·.turn) =
      List.range' 1 (granted .submit steps + granted .bootstrap steps) := by
  intro steps
  obtain ⟨hnumbers, hturn⟩ := map_turn_requests (fresh greetingPrompt fallbacks) actions
  have hturns : (turns greetingPrompt fallbacks actions).length =
      (((fresh greetingPrompt fallbacks).run actions).2.filterMap Outcome.request?).length := by
    rw [← (matches_turns greetingPrompt fallbacks actions).count, hturn]
    simp [fresh]
  have hsubmits := count_kind_turns greetingPrompt fallbacks actions .reply
  have hbootstraps := count_kind_turns greetingPrompt fallbacks actions .greeting
  simp only [asking] at hsubmits hbootstraps
  rw [requests_zip, hnumbers, ← hturns, ← count_kinds, hsubmits, hbootstraps]
  rfl

/-! ## The messages of the turns -/

theorem length_flatMap_messages (fallbacks : Fallbacks) (turns : List Turn) :
    (turns.flatMap (Turn.messages fallbacks)).length =
      2 * (turns.map Turn.kind).count .reply + (turns.map Turn.kind).count .greeting := by
  induction turns with
  | nil => rfl
  | cons turn turns ih =>
    simp only [List.flatMap_cons, List.length_append, ih, List.map_cons, List.count_cons,
      Turn.messages, Turn.question]
    cases turn.kind <;> simp <;> omega

theorem question_flatMap_messages (fallbacks : Fallbacks) (turns : List Turn) (i : Nat)
    (content : String)
    (h : (turns.flatMap (Turn.messages fallbacks))[i]? = some (.user content)) :
    (∃ turn ∈ turns, turn.kind = .reply ∧ turn.asked = content) ∧
      ∃ reply, (turns.flatMap (Turn.messages fallbacks))[i + 1]? = some (.assistant reply) := by
  induction turns generalizing i with
  | nil => simp at h
  | cons turn turns ih =>
    rw [List.flatMap_cons] at h ⊢
    have later : ∀ {i}, (turns.flatMap (Turn.messages fallbacks))[i]? = some (.user content) →
        (∃ turn' ∈ turn :: turns, turn'.kind = .reply ∧ turn'.asked = content) ∧
          ∃ reply, (turns.flatMap (Turn.messages fallbacks))[i + 1]? =
            some (.assistant reply) := by
      intro i h
      obtain ⟨⟨turn', hmem, hturn'⟩, hreply⟩ := ih i h
      exact ⟨⟨turn', List.mem_cons_of_mem _ hmem, hturn'⟩, hreply⟩
    cases hkind : turn.kind with
    | greeting =>
      simp only [Turn.messages, Turn.question, hkind, List.nil_append, List.cons_append] at h ⊢
      cases i with
      | zero => cases h
      | succ i => exact later h
    | reply =>
      simp only [Turn.messages, Turn.question, hkind, List.nil_append, List.cons_append] at h ⊢
      rcases i with _ | _ | i
      · cases h
        exact ⟨⟨turn, List.mem_cons_self, hkind, rfl⟩, _, rfl⟩
      · cases h
      · exact later h

theorem unasked_flatMap_messages (fallbacks : Fallbacks) (turns : List Turn)
    {before : Option Role} (h : before ≠ some .user) :
    unasked before (turns.flatMap (Turn.messages fallbacks)) =
      (turns.map Turn.kind).count .greeting := by
  induction turns generalizing before with
  | nil => rfl
  | cons turn turns ih =>
    rw [List.flatMap_cons, List.map_cons, List.count_cons]
    cases hkind : turn.kind <;>
      simp [Turn.messages, Turn.question, hkind, unasked, Message.user, Message.assistant, ih, h,
        Nat.add_comm]

end GuidedChat.Conversation
