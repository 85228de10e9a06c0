import GuidedChat.Proofs.Conversation.Steps

/-! # The turns of a conversation

Every granted request opens a turn, and an event that changes something belongs to the turn
whose number it carries. `recordAll` writes these turns down along a run, from what the
actions gave back. A conversation that started fresh always stands where its turns say
(`Matches`): the messages, the pending reply, the last failure and the count of turns can
all be read off them. One action preserves this (`Matches.perform`), and so does a run. -/

namespace GuidedChat

def TurnEvent.text? : TurnEvent → Option String
  | chunk text => some text
  | finished | failed _ => none

def TurnEvent.failure? : TurnEvent → Option FailureKind
  | failed kind => some kind
  | chunk _ | finished => none

/-- A turn as it went: what the model was asked, and the events that were taken in. -/
structure Turn where
  kind : TurnKind
  asked : String
  events : List TurnEvent := []
  deriving DecidableEq, Repr

namespace Turn

def take (turn : Turn) (event : TurnEvent) : Turn :=
  { turn with events := turn.events ++ [event] }

/-- No end has come yet. -/
def Open (turn : Turn) : Prop := ∀ event ∈ turn.events, event.isTerminal = false

/-- An end has come, and nothing after it. -/
def Over (turn : Turn) : Prop :=
  ∃ chunks last, turn.events = chunks ++ [last] ∧
    (∀ event ∈ chunks, event.isTerminal = false) ∧ last.isTerminal = true

def failure (turn : Turn) : Option FailureKind := turn.events.findSome? TurnEvent.failure?

/-- The reply as it reads: what has arrived, or the fallback once the turn has failed. -/
def reply (fallbacks : Fallbacks) (turn : Turn) : String :=
  match turn.failure with
  | some kind => fallbacks.text turn.kind kind
  | none => String.join (turn.events.filterMap TurnEvent.text?)

/-- What the turn put among the messages before its reply; the prompt of a greeting is
never one of them. -/
def question (turn : Turn) : List Message :=
  match turn.kind with
  | .greeting => []
  | .reply => [.user turn.asked]

def messages (fallbacks : Fallbacks) (turn : Turn) : List Message :=
  turn.question ++ [.assistant (turn.reply fallbacks)]

/-- What a turn is about, whatever events it takes in. -/
def opening (turn : Turn) : TurnKind × String := (turn.kind, turn.asked)

/-! ## Taking in events -/

theorem question_take (turn : Turn) (event : TurnEvent) :
    (turn.take event).question = turn.question := rfl

theorem failure_take (turn : Turn) (event : TurnEvent) :
    (turn.take event).failure = turn.failure.or event.failure? := by
  simp only [failure, take, List.findSome?_append]
  cases event <;> simp [TurnEvent.failure?]

theorem Open.failure_eq {turn : Turn} (h : turn.Open) : turn.failure = none := by
  rw [failure, List.findSome?_eq_none_iff]
  intro event hmem
  have hopen := h event hmem
  cases event <;> simp_all [TurnEvent.isTerminal, TurnEvent.failure?]

theorem Open.reply_eq {turn : Turn} (h : turn.Open) (fallbacks : Fallbacks) :
    turn.reply fallbacks = String.join (turn.events.filterMap TurnEvent.text?) := by
  rw [reply, h.failure_eq]

theorem Open.take_chunk {turn : Turn} (h : turn.Open) (text : String) :
    (turn.take (.chunk text)).Open := by
  intro event hmem
  rcases List.mem_append.mp hmem with hmem | hmem
  · exact h event hmem
  · rw [List.mem_singleton.mp hmem]
    rfl

theorem Open.reply_chunk {turn : Turn} (h : turn.Open) (fallbacks : Fallbacks)
    (text : String) :
    (turn.take (.chunk text)).reply fallbacks = turn.reply fallbacks ++ text := by
  rw [(h.take_chunk text).reply_eq, h.reply_eq]
  simp [take, TurnEvent.text?]

theorem Open.over {turn : Turn} (h : turn.Open) {event : TurnEvent}
    (hlast : event.isTerminal = true) : (turn.take event).Over :=
  ⟨turn.events, event, rfl, h, hlast⟩

theorem Open.reply_finished {turn : Turn} (h : turn.Open) (fallbacks : Fallbacks) :
    (turn.take .finished).reply fallbacks = turn.reply fallbacks := by
  rw [h.reply_eq, reply, failure_take, h.failure_eq]
  simp [take, List.filterMap_cons, TurnEvent.text?, TurnEvent.failure?]

theorem Open.reply_failed {turn : Turn} (h : turn.Open) (fallbacks : Fallbacks)
    (kind : FailureKind) :
    (turn.take (.failed kind)).reply fallbacks = fallbacks.text turn.kind kind := by
  rw [reply, failure_take, h.failure_eq]
  rfl

end Turn

namespace Conversation

/-- A conversation in which nothing has happened. -/
def fresh (greetingPrompt : String) (fallbacks : Fallbacks) : Conversation :=
  { greetingPrompt, fallbacks }

/-- The turns after one more action. -/
def record (c : Conversation) (turns : List Turn) : Action → List Turn
  | .setInput _ | .appendInput _ => turns
  | .bootstrap =>
    if c.bootstrap.2.isSome then turns ++ [⟨.greeting, c.greetingPrompt, []⟩] else turns
  | .submit => if c.submit.2.isSome then turns ++ [⟨.reply, Text.trim c.input, []⟩] else turns
  | .apply number event =>
    if (c.apply number event).2 then turns.modify (number - 1) (·.take event) else turns

/-- The turns after some actions. -/
def recordAll (c : Conversation) (turns : List Turn) : List Action → List Turn
  | [] => turns
  | action :: rest => (c.perform action).1.recordAll (c.record turns action) rest

/-- What the turn is about that an action opens, if it opens one. -/
def opens (c : Conversation) : Action → List (TurnKind × String)
  | .setInput _ | .appendInput _ | .apply _ _ => []
  | .bootstrap => if c.bootstrap.2.isSome then [(.greeting, c.greetingPrompt)] else []
  | .submit => if c.submit.2.isSome then [(.reply, Text.trim c.input)] else []

/-- What the turns are about that some actions open. -/
def openings (c : Conversation) : List Action → List (TurnKind × String)
  | [] => []
  | action :: rest => c.opens action ++ (c.perform action).1.openings rest

theorem map_opening_modify (turns : List Turn) (i : Nat) (event : TurnEvent) :
    (turns.modify i (·.take event)).map Turn.opening = turns.map Turn.opening := by
  induction turns generalizing i with
  | nil => simp
  | cons turn turns ih =>
    cases i with
    | zero => rfl
    | succ i => simp [List.modify_succ_cons, ih]

theorem map_opening_record (c : Conversation) (turns : List Turn) (action : Action) :
    (c.record turns action).map Turn.opening = turns.map Turn.opening ++ c.opens action := by
  cases action with
  | setInput text => simp [record, opens]
  | appendInput text => simp [record, opens]
  | bootstrap => by_cases h : c.bootstrap.2.isSome <;> simp [record, opens, h, Turn.opening]
  | submit => by_cases h : c.submit.2.isSome <;> simp [record, opens, h, Turn.opening]
  | apply number event =>
    rw [record, opens, List.append_nil]
    split
    · exact map_opening_modify ..
    · rfl

theorem map_opening_recordAll (c : Conversation) (turns : List Turn) (actions : List Action) :
    (c.recordAll turns actions).map Turn.opening =
      turns.map Turn.opening ++ c.openings actions := by
  induction actions generalizing c turns with
  | nil => simp [recordAll, openings]
  | cons action rest ih => rw [recordAll, ih, map_opening_record, openings, List.append_assoc]

/-- The state of the pending reply, of what is settled and of the last failure, where the
turns went as recorded. -/
def StandsAt (c : Conversation) (turns : List Turn) : Prop :=
  match c.pending with
  | none =>
    (∀ turn ∈ turns, turn.Over) ∧
      c.settled = turns.flatMap (Turn.messages c.fallbacks) ∧
      c.lastFailure = turns.getLast?.bind Turn.failure
  | some pending =>
    ∃ earlier latest, turns = earlier ++ [latest] ∧
      (∀ turn ∈ earlier, turn.Over) ∧ latest.Open ∧
      pending = ⟨latest.kind, latest.reply c.fallbacks⟩ ∧
      c.settled = earlier.flatMap (Turn.messages c.fallbacks) ++ latest.question ∧
      c.lastFailure = none

structure Matches (c : Conversation) (turns : List Turn) : Prop where
  count : c.turn = turns.length
  greeted : (turns.map Turn.kind).count .greeting = if c.bootstrapped then 1 else 0
  asked : ∀ turn ∈ turns, turn.kind = .reply →
    turn.asked ≠ "" ∧ Text.trim turn.asked = turn.asked
  stands : c.StandsAt turns

theorem matches_fresh (greetingPrompt : String) (fallbacks : Fallbacks) :
    (fresh greetingPrompt fallbacks).Matches [] where
  count := rfl
  greeted := rfl
  asked := by simp
  stands := by simp [StandsAt, fresh]

namespace Matches

variable {c : Conversation} {turns : List Turn}

/-- Between turns everything has ended and is settled. -/
theorem idle (h : c.Matches turns) (hidle : c.pending = none) :
    (∀ turn ∈ turns, turn.Over) ∧
      c.settled = turns.flatMap (Turn.messages c.fallbacks) ∧
      c.lastFailure = turns.getLast?.bind Turn.failure := by
  have hstands := h.stands
  rwa [StandsAt, hidle] at hstands

theorem busy (h : c.Matches turns) {pending : Pending} (hbusy : c.pending = some pending) :
    ∃ earlier latest, turns = earlier ++ [latest] ∧
      (∀ turn ∈ earlier, turn.Over) ∧ latest.Open ∧
      pending = ⟨latest.kind, latest.reply c.fallbacks⟩ ∧
      c.settled = earlier.flatMap (Turn.messages c.fallbacks) ++ latest.question ∧
      c.lastFailure = none := by
  have hstands := h.stands
  rwa [StandsAt, hbusy] at hstands

/-- The messages are those of the turns, one after the other. -/
theorem messages_eq (h : c.Matches turns) :
    c.messages = turns.flatMap (Turn.messages c.fallbacks) := by
  cases hpending : c.pending with
  | none =>
    rw [Conversation.messages, hpending, (h.idle hpending).2.1]
    simp
  | some pending =>
    obtain ⟨earlier, latest, rfl, -, -, rfl, hsettled, -⟩ := h.busy hpending
    rw [Conversation.messages, hpending, hsettled]
    simp [Turn.messages]

/-! ## One action -/

/-- A turn that opens after all others have ended has taken in nothing yet. -/
theorem open_new (kind : TurnKind) (asked : String) (fallbacks : Fallbacks) :
    Turn.Open ⟨kind, asked, []⟩ ∧ Turn.reply fallbacks ⟨kind, asked, []⟩ = "" := by
  simp [Turn.Open, Turn.reply, Turn.failure]

theorem bootstrap (h : c.Matches turns) :
    c.bootstrap.1.Matches (c.record turns .bootstrap) := by
  rcases c.bootstrap_cases with ⟨-, hrefused⟩ | ⟨hfirst, hidle, hgranted⟩
  · simpa [record, hrefused] using h
  · obtain ⟨hover, hsettled, -⟩ := h.idle hidle
    obtain ⟨hopen, hreply⟩ := open_new .greeting c.greetingPrompt c.fallbacks
    have hrecord : c.record turns .bootstrap = turns ++ [⟨.greeting, c.greetingPrompt, []⟩] := by
      simp [record, hgranted]
    rw [hrecord, hgranted]
    exact {
      count := by simp [begin, h.count]
      greeted := by simp [begin, h.greeted, hfirst]
      asked := by
        intro turn hmem hkind
        rcases List.mem_append.mp hmem with hmem | hmem
        · exact h.asked turn hmem hkind
        · rw [List.mem_singleton.mp hmem] at hkind
          cases hkind
      stands := ⟨turns, _, rfl, hover, hopen, congrArg (Pending.mk _) hreply.symm,
        by simp [begin, Turn.question, hsettled], rfl⟩ }

theorem submit (h : c.Matches turns) : c.submit.1.Matches (c.record turns .submit) := by
  rcases c.submit_cases with ⟨-, hrefused⟩ | ⟨hidle, htext, hgranted⟩
  · simpa [record, hrefused] using h
  · obtain ⟨hover, hsettled, -⟩ := h.idle hidle
    obtain ⟨hopen, hreply⟩ := open_new .reply (Text.trim c.input) c.fallbacks
    have hrecord : c.record turns .submit = turns ++ [⟨.reply, Text.trim c.input, []⟩] := by
      simp [record, hgranted]
    rw [hrecord, hgranted]
    exact {
      count := by simp [begin, h.count]
      greeted := by
        rw [List.map_append, List.count_append]
        exact h.greeted
      asked := by
        intro turn hmem hkind
        rcases List.mem_append.mp hmem with hmem | hmem
        · exact h.asked turn hmem hkind
        · rw [List.mem_singleton.mp hmem]
          exact ⟨htext, Text.trim_trim _⟩
      stands := ⟨turns, _, rfl, hover, hopen, congrArg (Pending.mk _) hreply.symm,
        by simp [begin, Turn.question, hsettled], rfl⟩ }

theorem modify_latest (earlier : List Turn) (latest : Turn) (event : TurnEvent) :
    (earlier ++ [latest]).modify earlier.length (·.take event) =
      earlier ++ [latest.take event] := by
  induction earlier with
  | nil => rfl
  | cons turn earlier ih => simp [List.modify_succ_cons, ih]

/-- Whatever the latest turn takes in, the turns remain as many and of the same kinds. -/
theorem of_latest {earlier : List Turn} {latest : Turn} {event : TurnEvent}
    (h : c.Matches (earlier ++ [latest])) {next : Conversation}
    (hturn : next.turn = c.turn) (hbootstrapped : next.bootstrapped = c.bootstrapped)
    (hstands : next.StandsAt (earlier ++ [latest.take event])) :
    next.Matches (earlier ++ [latest.take event]) where
  count := by rw [hturn, h.count]; simp
  greeted := by
    rw [hbootstrapped, ← h.greeted]
    simp [Turn.take]
  asked := by
    intro turn hmem
    rcases List.mem_append.mp hmem with hmem | hmem
    · exact h.asked turn (List.mem_append_left _ hmem)
    · rw [List.mem_singleton.mp hmem]
      exact h.asked latest (by simp)
  stands := hstands

theorem over_append {earlier : List Turn} {latest : Turn}
    (hearlier : ∀ turn ∈ earlier, turn.Over) (hlatest : latest.Over) :
    ∀ turn ∈ earlier ++ [latest], turn.Over := by
  intro turn hmem
  rcases List.mem_append.mp hmem with hmem | hmem
  · exact hearlier turn hmem
  · exact List.mem_singleton.mp hmem ▸ hlatest

/-- Events that change nothing are recorded nowhere; the others go to the latest turn. -/
theorem apply (h : c.Matches turns) (number : Nat) (event : TurnEvent) :
    (c.apply number event).1.Matches (c.record turns (.apply number event)) := by
  rcases c.apply_cases number event with ⟨-, hrefused⟩ | ⟨pending, hnumber, hpending, hcase⟩
  · simpa [record, hrefused] using h
  obtain ⟨earlier, latest, rfl, hover, hopen, rfl, hsettled, hfailure⟩ := h.busy hpending
  have hplace : number - 1 = earlier.length := by
    rw [hnumber, h.count]
    simp
  have hrecord : (c.apply number event).2 = true →
      c.record (earlier ++ [latest]) (.apply number event) = earlier ++ [latest.take event] := by
    intro htaken
    rw [record, if_pos htaken, hplace, modify_latest]
  rcases hcase with ⟨text, -, rfl, happly⟩ | ⟨rfl, happly⟩ | ⟨kind, rfl, happly⟩
  · rw [hrecord (by rw [happly]), happly]
    refine h.of_latest rfl rfl ⟨earlier, _, rfl, hover, hopen.take_chunk text, ?_, hsettled,
      hfailure⟩
    exact congrArg (Pending.mk _) (hopen.reply_chunk _ text).symm
  · rw [hrecord (by rw [happly]), happly]
    refine h.of_latest rfl rfl ⟨over_append hover (hopen.over rfl), ?_, ?_⟩
    · simp [settle, hsettled, Turn.messages, Turn.question_take, hopen.reply_finished]
    · simp [settle, Turn.failure_take, hopen.failure_eq, TurnEvent.failure?]
  · rw [hrecord (by rw [happly]), happly]
    refine h.of_latest rfl rfl ⟨over_append hover (hopen.over rfl), ?_, ?_⟩
    · simp [settle, hsettled, Turn.messages, Turn.question_take, hopen.reply_failed]
    · simp [settle, Turn.failure_take, hopen.failure_eq, TurnEvent.failure?]

theorem perform (h : c.Matches turns) (action : Action) :
    (c.perform action).1.Matches (c.record turns action) := by
  cases action with
  | setInput text => exact ⟨h.count, h.greeted, h.asked, h.stands⟩
  | appendInput text => exact ⟨h.count, h.greeted, h.asked, h.stands⟩
  | bootstrap => exact h.bootstrap
  | submit => exact h.submit
  | apply number event => exact h.apply number event

/-! ## A run -/

theorem run (h : c.Matches turns) (actions : List Action) :
    (c.run actions).1.Matches (c.recordAll turns actions) := by
  induction actions generalizing c turns with
  | nil => exact h
  | cons action rest ih => exact ih (h.perform action)

end Matches

/-- The turns of a conversation since it was fresh. -/
def turns (greetingPrompt : String) (fallbacks : Fallbacks) (actions : List Action) :
    List Turn :=
  (fresh greetingPrompt fallbacks).recordAll [] actions

theorem map_opening_turns (greetingPrompt : String) (fallbacks : Fallbacks)
    (actions : List Action) :
    (turns greetingPrompt fallbacks actions).map Turn.opening =
      (fresh greetingPrompt fallbacks).openings actions := by
  rw [turns, map_opening_recordAll]
  rfl

/-- **A conversation stands where its turns say.** -/
theorem matches_turns (greetingPrompt : String) (fallbacks : Fallbacks)
    (actions : List Action) :
    ((fresh greetingPrompt fallbacks).run actions).1.Matches
      (turns greetingPrompt fallbacks actions) :=
  (matches_fresh greetingPrompt fallbacks).run actions

end Conversation

end GuidedChat
