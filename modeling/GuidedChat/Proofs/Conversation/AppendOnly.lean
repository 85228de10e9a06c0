import GuidedChat.Proofs.Conversation.Counts

/-! # What has been said stays

Messages are only ever added behind the others, by a request that is granted, and only the
pending one still changes: it grows by what arrives, unless its turn fails. So a reply can be
followed through the life of its turn: while chunks arrive it is what arrived so far, and its
end leaves that text or puts the fallback for the kind of the turn in its place, for good
(`append_only_run`). What carries the second half is where a turn stands after the events that
it has taken in (`Stands`): its reply is pending, or lies among the settled messages, which no
action touches. -/

namespace GuidedChat.Conversation

/-! ## One action -/

/-- The messages that an action puts behind all others. -/
def appended (c : Conversation) : Action → List Message
  | .setInput _ | .appendInput _ | .apply _ _ => []
  | .bootstrap => if c.bootstrap.2.isSome then [.assistant ""] else []
  | .submit =>
    if c.submit.2.isSome then [.user (Text.trim c.input), .assistant ""] else []

/-- Whether an action makes the pending turn fail. -/
def Fails (c : Conversation) (action : Action) : Prop :=
  ∃ number kind, action = .apply number (.failed kind) ∧
    (c.apply number (.failed kind)).2 = true

structure Grows (c : Conversation) (action : Action) : Prop where
  kept : ∀ i < c.messages.length, c.pendingIndex ≠ some i →
    (c.perform action).1.messages[i]? = c.messages[i]?
  length : (c.perform action).1.messages.length =
    c.messages.length + (c.appended action).length
  behind : (c.perform action).1.messages.drop c.messages.length = c.appended action
  pending : ∀ i, c.pendingIndex = some i → ∃ old new,
    c.messages[i]? = some (.assistant old) ∧
      (c.perform action).1.messages[i]? = some (.assistant new) ∧
      (¬c.Fails action → ∃ more, new = old ++ more)

variable {c : Conversation}

theorem messages_idle (h : c.pending = none) : c.messages = c.settled := by
  simp [messages, h]

theorem messages_busy {pending : Pending} (h : c.pending = some pending) :
    c.messages = c.settled ++ [.assistant pending.text] := by
  simp [messages, h]

theorem messages_perform_idle (hidle : c.pending = none) (action : Action) :
    (c.perform action).1.messages = c.messages ++ c.appended action := by
  rw [messages_idle hidle]
  cases action with
  | setInput text | appendInput text =>
    rw [appended, List.append_nil]
    exact messages_idle hidle
  | bootstrap =>
    rw [perform_bootstrap, appended]
    rcases c.bootstrap_cases with ⟨-, hrefused⟩ | ⟨-, -, hgranted⟩
    · simp [hrefused, messages_idle hidle]
    · rw [hgranted]
      rfl
  | submit =>
    rw [perform_submit, appended]
    rcases c.submit_cases with ⟨-, hrefused⟩ | ⟨-, -, hgranted⟩
    · simp [hrefused, messages_idle hidle]
    · rw [hgranted]
      simp [messages, begin]
  | apply number event =>
    rw [perform_apply, c.apply_refused (.inr hidle), appended, List.append_nil]
    exact messages_idle hidle

/-- While a message is pending only that one changes, and only a failure takes anything away
from it. -/
theorem messages_perform_busy {pending : Pending} (hpending : c.pending = some pending)
    (action : Action) :
    c.appended action = [] ∧ ∃ text,
      (c.perform action).1.messages = c.settled ++ [.assistant text] ∧
      (¬c.Fails action → ∃ more, text = pending.text ++ more) := by
  obtain ⟨hbootstrap, hsubmit⟩ := c.requests_refused (by simp [hpending])
  have hsame := messages_busy hpending
  cases action with
  | setInput text => exact ⟨rfl, pending.text, hsame, fun _ => ⟨"", by simp⟩⟩
  | appendInput text => exact ⟨rfl, pending.text, hsame, fun _ => ⟨"", by simp⟩⟩
  | bootstrap =>
    rw [perform_bootstrap, appended, hbootstrap]
    exact ⟨rfl, pending.text, hsame, fun _ => ⟨"", by simp⟩⟩
  | submit =>
    rw [perform_submit, appended, hsubmit]
    exact ⟨rfl, pending.text, hsame, fun _ => ⟨"", by simp⟩⟩
  | apply number event =>
    rw [perform_apply]
    refine ⟨rfl, ?_⟩
    rcases c.apply_cases number event with ⟨-, hrefused⟩ | ⟨current, -, hcurrent, htaken⟩
    · rw [hrefused]
      exact ⟨pending.text, hsame, fun _ => ⟨"", by simp⟩⟩
    rw [hpending] at hcurrent
    cases hcurrent
    rcases htaken with ⟨text, -, -, hgrown⟩ | ⟨-, hended⟩ | ⟨kind, rfl, hended⟩
    · rw [hgrown]
      exact ⟨pending.text ++ text, rfl, fun _ => ⟨text, rfl⟩⟩
    · rw [hended]
      exact ⟨pending.text, messages_idle rfl, fun _ => ⟨"", by simp⟩⟩
    · -- the fallback need not begin with what arrived: the one case without a prefix
      have hfails : c.Fails (.apply number (.failed kind)) :=
        ⟨number, kind, rfl, by rw [hended]⟩
      rw [hended]
      exact ⟨_, messages_idle rfl, fun hnot => absurd hfails hnot⟩

theorem grows (c : Conversation) (action : Action) : c.Grows action := by
  cases hpending : c.pending with
  | none =>
    have hnext := messages_perform_idle hpending action
    refine ⟨?_, ?_, ?_, ?_⟩
    · intro i hlt _
      rw [hnext, List.getElem?_append_left hlt]
    · rw [hnext, List.length_append]
    · rw [hnext, List.drop_left]
    · simp [pendingIndex, hpending]
  | some pending =>
    obtain ⟨hnothing, text, hnext, hmore⟩ := messages_perform_busy hpending action
    have hmessages := messages_busy hpending
    have hplace : c.pendingIndex = some c.settled.length := by simp [pendingIndex, hpending]
    refine ⟨?_, ?_, ?_, ?_⟩
    · intro i hlt hother
      have hbefore : i < c.settled.length := by
        have hne : c.settled.length ≠ i := fun heq => hother (by rw [hplace, heq])
        rw [hmessages, List.length_append, List.length_singleton] at hlt
        omega
      rw [hnext, hmessages, List.getElem?_append_left hbefore, List.getElem?_append_left hbefore]
    · simp [hnext, hmessages, hnothing]
    · simp [hnext, hmessages, hnothing]
    · intro i hi
      rw [hplace] at hi
      cases hi
      exact ⟨pending.text, text, by simp [hmessages], by simp [hnext], hmore⟩

theorem settled_perform (c : Conversation) (action : Action) :
    c.settled <+: (c.perform action).1.settled := by
  cases action with
  | setInput text | appendInput text => exact List.prefix_rfl
  | bootstrap =>
    rw [perform_bootstrap]
    rcases c.bootstrap_cases with ⟨-, hrefused⟩ | ⟨-, -, hgranted⟩
    · exact ⟨[], by simp [hrefused]⟩
    · exact ⟨[], by simp [hgranted, begin]⟩
  | submit =>
    rw [perform_submit]
    rcases c.submit_cases with ⟨-, hrefused⟩ | ⟨-, -, hgranted⟩
    · exact ⟨[], by simp [hrefused]⟩
    · exact ⟨[.user (Text.trim c.input)], by rw [hgranted]; rfl⟩
  | apply number event =>
    rw [perform_apply]
    rcases c.apply_cases number event with
        ⟨-, hrefused⟩ | ⟨_, -, -, ⟨_, -, -, hgrown⟩ | ⟨-, hended⟩ | ⟨_, -, hended⟩⟩
    · exact ⟨[], by simp [hrefused]⟩
    · exact ⟨[], by simp [hgrown]⟩
    · exact ⟨[_], by rw [hended]; rfl⟩
    · exact ⟨[_], by rw [hended]; rfl⟩

theorem settled_run (c : Conversation) (actions : List Action) :
    c.settled <+: (c.run actions).1.settled := by
  induction actions generalizing c with
  | nil => exact List.prefix_rfl
  | cons action rest ih => exact (c.settled_perform action).trans (ih _)

/-! ## The life of a turn -/

/-- The events of a turn that changed something, along some steps. -/
def taken (number : Nat) (steps : List (Action × Outcome)) : List TurnEvent :=
  steps.filterMap fun
    | (.apply turn event, .applied true) => if turn = number then some event else none
    | _ => none

/-- How the message in place `i` reads, as the reply of a turn of this kind that has taken in
these events. -/
inductive Reads (c : Conversation) (fallbacks : Fallbacks) (kind : TurnKind) (i : Nat) :
    List TurnEvent → Prop
  | pending (texts : List String) : c.pendingIndex = some i →
    c.messages[i]? = some (.assistant (String.join texts)) →
    Reads c fallbacks kind i (texts.map .chunk)
  | finished (texts : List String) : c.pendingIndex ≠ some i →
    c.messages[i]? = some (.assistant (String.join texts)) →
    Reads c fallbacks kind i (texts.map .chunk ++ [.finished])
  | failed (texts : List String) (failure : FailureKind) : c.pendingIndex ≠ some i →
    c.messages[i]? = some (.assistant (fallbacks.text kind failure)) →
    Reads c fallbacks kind i (texts.map .chunk ++ [.failed failure])

/-- A turn takes in nothing more. -/
def Closed (c : Conversation) (number : Nat) : Prop :=
  number < c.turn ∨ number = c.turn ∧ c.pending = none

/-- Where a turn stands after the events that it has taken in. -/
inductive Stands (c : Conversation) (number : Nat) (kind : TurnKind) (i : Nat) :
    List TurnEvent → Prop
  | pending (texts : List String) : c.turn = number → c.settled.length = i →
    c.pending = some ⟨kind, String.join texts⟩ →
    Stands c number kind i (texts.map .chunk)
  | finished (texts : List String) : c.Closed number →
    c.settled[i]? = some (.assistant (String.join texts)) →
    Stands c number kind i (texts.map .chunk ++ [.finished])
  | failed (texts : List String) (failure : FailureKind) : c.Closed number →
    c.settled[i]? = some (.assistant (c.fallbacks.text kind failure)) →
    Stands c number kind i (texts.map .chunk ++ [.failed failure])

theorem taken_cons (number : Nat) (step : Action × Outcome) (steps : List (Action × Outcome)) :
    taken number (step :: steps) = taken number [step] ++ taken number steps :=
  List.filterMap_append (l := [step])

theorem taken_own (number : Nat) (event : TurnEvent) :
    taken number [(.apply number event, .applied true)] = [event] := by
  simp [taken]

theorem taken_other {number turn : Nat} (h : turn ≠ number) (event : TurnEvent)
    (changed : Bool) : taken number [(.apply turn event, .applied changed)] = [] := by
  cases changed <;> simp [taken, h]

theorem Closed.perform {number : Nat} (h : c.Closed number) (action : Action) :
    (c.perform action).1.Closed number ∧ taken number [(action, (c.perform action).2)] = [] := by
  have hle : number ≤ c.turn := by
    rcases h with h | ⟨h, -⟩ <;> omega
  cases action with
  | setInput text | appendInput text => exact ⟨h, rfl⟩
  | bootstrap =>
    rw [perform_bootstrap]
    rcases c.bootstrap_cases with ⟨-, hrefused⟩ | ⟨-, -, hgranted⟩
    · rw [hrefused]
      exact ⟨h, rfl⟩
    · rw [hgranted]
      exact ⟨.inl (Nat.lt_succ_of_le hle), rfl⟩
  | submit =>
    rw [perform_submit]
    rcases c.submit_cases with ⟨-, hrefused⟩ | ⟨-, -, hgranted⟩
    · rw [hrefused]
      exact ⟨h, rfl⟩
    · rw [hgranted]
      exact ⟨.inl (Nat.lt_succ_of_le hle), rfl⟩
  | apply turn event =>
    obtain ⟨hturn, -, -, hidle⟩ := c.apply_keeps turn event
    rw [perform_apply]
    refine ⟨?_, ?_⟩
    · rw [Closed, hturn]
      exact h.imp_right fun hcurrent => ⟨hcurrent.1, hidle hcurrent.2⟩
    · by_cases hother : turn = number
      · -- an event of the closed turn itself, which is no longer the pending one
        have hrefused : turn ≠ c.turn ∨ c.pending = none :=
          h.imp (fun hearlier => by omega) And.right
        rw [c.apply_refused hrefused]
        rfl
      · exact taken_other hother ..

theorem getElem?_mono {before after : List Message} (h : before <+: after) {i : Nat}
    {message : Message} (hi : before[i]? = some message) : after[i]? = some message := by
  obtain ⟨hlt, rfl⟩ := List.getElem?_eq_some_iff.mp hi
  exact List.prefix_iff_getElem?.mp h i hlt

namespace Stands

variable {number i : Nat} {kind : TurnKind} {events : List TurnEvent}

theorem of_begin (c : Conversation) (kind : TurnKind) :
    (c.begin kind).Stands (c.turn + 1) kind c.settled.length [] :=
  .pending [] rfl rfl rfl

/-- While its reply is pending a turn takes in whatever is not empty, up to its end. -/
theorem perform_pending {texts : List String} (hturn : c.turn = number)
    (hplace : c.settled.length = i) (hpending : c.pending = some ⟨kind, String.join texts⟩)
    (action : Action) :
    (c.perform action).1.Stands number kind i
      (texts.map .chunk ++ taken number [(action, (c.perform action).2)]) := by
  have hsame : c.Stands number kind i (texts.map .chunk ++ []) := by
    rw [List.append_nil]
    exact .pending texts hturn hplace hpending
  obtain ⟨hbootstrap, hsubmit⟩ := c.requests_refused (by simp [hpending])
  cases action with
  | setInput text =>
    show (c.setInput text).Stands number kind i (texts.map .chunk ++ [])
    rw [List.append_nil]
    exact .pending texts hturn hplace hpending
  | appendInput text =>
    show (c.appendInput text).Stands number kind i (texts.map .chunk ++ [])
    rw [List.append_nil]
    exact .pending texts hturn hplace hpending
  | bootstrap =>
    rw [perform_bootstrap, hbootstrap]
    exact hsame
  | submit =>
    rw [perform_submit, hsubmit]
    exact hsame
  | apply turn event =>
    rw [perform_apply]
    rcases c.apply_cases turn event with ⟨-, hrefused⟩ | ⟨pending, rfl, hcurrent, htaken⟩
    · rw [hrefused]
      exact hsame
    rw [hpending] at hcurrent
    cases hcurrent
    subst hturn hplace
    rcases htaken with ⟨text, -, rfl, hgrown⟩ | ⟨rfl, hended⟩ | ⟨failure, rfl, hended⟩
    · rw [hgrown, taken_own, ← List.map_singleton, ← List.map_append]
      exact .pending _ rfl rfl (by simp)
    · rw [hended, taken_own]
      exact .finished texts (.inr ⟨rfl, rfl⟩) (by simp [settle])
    · rw [hended, taken_own]
      exact .failed texts failure (.inr ⟨rfl, rfl⟩) (by simp [settle])

theorem perform (h : c.Stands number kind i events) (action : Action) :
    (c.perform action).1.Stands number kind i
      (events ++ taken number [(action, (c.perform action).2)]) := by
  cases h with
  | pending texts hturn hplace hpending => exact perform_pending hturn hplace hpending action
  | finished texts hclosed hplace =>
    obtain ⟨hnext, hnothing⟩ := hclosed.perform action
    rw [hnothing, List.append_nil]
    exact .finished texts hnext (getElem?_mono (c.settled_perform action) hplace)
  | failed texts failure hclosed hplace =>
    obtain ⟨hnext, hnothing⟩ := hclosed.perform action
    -- the fallbacks are those of the conversation now, and no action changes them
    rw [← (c.perform_setup action).2] at hplace
    rw [hnothing, List.append_nil]
    exact .failed texts failure hnext (getElem?_mono (c.settled_perform action) hplace)

theorem run (h : c.Stands number kind i events) (actions : List Action) :
    (c.run actions).1.Stands number kind i
      (events ++ taken number (actions.zip (c.run actions).2)) := by
  induction actions generalizing c events with
  | nil =>
    show c.Stands number kind i (events ++ [])
    rwa [List.append_nil]
  | cons action rest ih =>
    have hrest := ih (h.perform action)
    rwa [run_cons, List.zip_cons_cons, taken_cons, ← List.append_assoc]

theorem place_of_settled {message : Message} (h : c.settled[i]? = some message) :
    c.pendingIndex ≠ some i ∧ c.messages[i]? = some message := by
  obtain ⟨hlt, -⟩ := List.getElem?_eq_some_iff.mp h
  refine ⟨?_, ?_⟩
  · intro hplace
    obtain ⟨_, -, hlast⟩ := Option.map_eq_some_iff.mp hplace
    omega
  · rw [messages, List.getElem?_append_left hlt, h]

theorem reads (h : c.Stands number kind i events) : c.Reads c.fallbacks kind i events := by
  cases h with
  | pending texts _ hplace hpending =>
    subst hplace
    exact .pending texts (by simp [pendingIndex, hpending]) (by simp [messages, hpending])
  | finished texts _ hplace =>
    obtain ⟨hsettled, htext⟩ := place_of_settled hplace
    exact .finished texts hsettled htext
  | failed texts failure _ hplace =>
    obtain ⟨hsettled, htext⟩ := place_of_settled hplace
    exact .failed texts failure hsettled htext

theorem messages_run (h : c.Stands number kind i events)
    (hend : ∃ event ∈ events, event.isTerminal = true) (more : List Action) :
    (c.run more).1.messages[i]? = c.messages[i]? := by
  -- a turn with an end among its events is not pending
  have hsettled : ∃ message, c.settled[i]? = some message := by
    cases h with
    | pending texts _ _ _ =>
      obtain ⟨event, hmem, hterminal⟩ := hend
      obtain ⟨text, -, rfl⟩ := List.mem_map.mp hmem
      cases hterminal
    | finished texts _ hplace => exact ⟨_, hplace⟩
    | failed texts failure _ hplace => exact ⟨_, hplace⟩
  obtain ⟨message, hmessage⟩ := hsettled
  have hlater := getElem?_mono (c.settled_run more) hmessage
  rw [(place_of_settled hmessage).2, (place_of_settled hlater).2]

end Stands

/-- A granted request opens its turn behind all messages. -/
theorem stands_asking {kind : TurnKind} {request : TurnRequest}
    (h : (c.perform (asking kind)).2 = .request (some request)) :
    ∃ i, (c.perform (asking kind)).1.pendingIndex = some i ∧
      (c.perform (asking kind)).1.Stands request.turn kind i [] := by
  cases kind with
  | greeting =>
    rw [asking, perform_bootstrap] at h ⊢
    rcases c.bootstrap_cases with ⟨-, hrefused⟩ | ⟨-, -, hgranted⟩
    · rw [hrefused] at h
      cases h
    · rw [hgranted] at h ⊢
      cases h
      exact ⟨_, rfl, .of_begin { c with bootstrapped := true } .greeting⟩
  | reply =>
    rw [asking, perform_submit] at h ⊢
    rcases c.submit_cases with ⟨-, hrefused⟩ | ⟨-, -, hgranted⟩
    · rw [hrefused] at h
      cases h
    · rw [hgranted] at h ⊢
      cases h
      exact ⟨_, rfl, .of_begin { c with input := "", settled := _ } .reply⟩

/-- **What has been said stays.** Whatever was done before, an action leaves all messages but
the pending one, and adds at most those of a request; and the reply of a turn, from its request
on, reads as its events tell, and after its end it stays as it is. -/
theorem append_only_run (greetingPrompt : String) (fallbacks : Fallbacks)
    (before : List Action) :
    let c := ((fresh greetingPrompt fallbacks).run before).1
    (∀ action, c.Grows action) ∧
      ∀ kind request, (c.perform (asking kind)).2 = .request (some request) →
        let opened := (c.perform (asking kind)).1
        ∃ i, opened.pendingIndex = some i ∧ ∀ later,
          let reached := (opened.run later).1
          let events := taken request.turn (later.zip (opened.run later).2)
          reached.Reads fallbacks kind i events ∧
            ((∃ event ∈ events, event.isTerminal = true) →
              ∀ more, (opened.run (later ++ more)).1.messages[i]? = reached.messages[i]?) := by
  intro c
  refine ⟨c.grows, ?_⟩
  intro kind request hrequest opened
  obtain ⟨i, hplace, hopened⟩ := stands_asking hrequest
  have hfallbacks : opened.fallbacks = fallbacks := by
    rw [(c.perform_setup _).2, (run_setup _ before).2]
    rfl
  refine ⟨i, hplace, ?_⟩
  intro later reached events
  have hstands : reached.Stands request.turn kind i events := hopened.run later
  refine ⟨?_, ?_⟩
  · have hreads := hstands.reads
    rwa [(run_setup opened later).2, hfallbacks] at hreads
  · intro hend more
    rw [run_append]
    exact hstands.messages_run hend more

/-- A greeting that failed after its first chunk keeps its fallback, also while a message is
answered and a chunk of the greeting comes late. -/
theorem append_only_run_failed_greeting :
    let c := ((fresh "p" {}).run []).1
    let request : TurnRequest := ⟨1, [.user "p"]⟩
    let opened := (c.perform (asking .greeting)).1
    let later : List Action := [.apply 1 (.chunk "a"), .apply 1 (.failed .rateLimited)]
    let more : List Action := [.setInput "q", .submit, .apply 1 (.chunk "b"), .apply 2 .finished]
    (c.perform (asking .greeting)).2 = .request (some request) ∧
      taken request.turn (later.zip (opened.run later).2) =
        [.chunk "a", .failed .rateLimited] ∧
      (opened.run (later ++ more)).1.messages[0]? =
        some (.assistant (Fallbacks.text {} .greeting .rateLimited)) := by
  intro c request opened later more
  have hrequest : (c.perform (asking .greeting)).2 = .request (some request) := by
    decide +kernel
  obtain ⟨i, hplace, hlife⟩ := (append_only_run "p" {} []).2 .greeting request hrequest
  obtain ⟨-, hstays⟩ := hlife later
  have hfirst : i = 0 := Option.some.inj hplace.symm
  subst hfirst
  refine ⟨hrequest, by decide +kernel, ?_⟩
  rw [hstays (by decide +kernel) more]
  decide +kernel

end GuidedChat.Conversation
