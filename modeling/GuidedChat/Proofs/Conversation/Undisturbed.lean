import GuidedChat.Proofs.Conversation.Counts
import Mathlib.Data.List.Induction

/-! # A pending reply and its reader do not disturb each other

While a reply is pending its reader may go on typing, and may ask for a greeting or submit in
vain. However this is mixed with the events of the reply, the reply and the results of its
events are those it has on its own, and the input is what was typed (`undisturbed_run`). What
carries this is that a run splits in two (`Splits`): into its events, and into an input as
typed. One more event leaves it so, as no event looks at the input (`Splits.event`), and so does
anything else that the reader does while the reply is pending, as it changes nothing but the
input (`Splits.reader`). -/

namespace GuidedChat

/-- The third list has the entries of the first and of the second, each in their order. -/
inductive Interleaves {α : Type} : List α → List α → List α → Prop
  | nil : Interleaves [] [] []
  | left {a : α} {lefts rights mixed : List α} :
    Interleaves lefts rights mixed → Interleaves (a :: lefts) rights (a :: mixed)
  | right {a : α} {lefts rights mixed : List α} :
    Interleaves lefts rights mixed → Interleaves lefts (a :: rights) (a :: mixed)

namespace Interleaves

variable {α : Type} {lefts rights mixed : List α}

theorem mem_or_mem (h : Interleaves lefts rights mixed) {a : α} (ha : a ∈ mixed) :
    a ∈ lefts ∨ a ∈ rights := by
  induction h with
  | nil => cases ha
  | left _ ih =>
    rcases List.mem_cons.mp ha with rfl | ha
    · exact .inl List.mem_cons_self
    · exact (ih ha).imp_left (List.mem_cons_of_mem _)
  | right _ ih =>
    rcases List.mem_cons.mp ha with rfl | ha
    · exact .inr List.mem_cons_self
    · exact (ih ha).imp_right (List.mem_cons_of_mem _)

/-- What only entries of the first list satisfy picks that list out. -/
theorem filter_eq_left (h : Interleaves lefts rights mixed) {p : α → Bool}
    (hlefts : ∀ a ∈ lefts, p a = true) (hrights : ∀ a ∈ rights, p a = false) :
    mixed.filter p = lefts := by
  induction h with
  | nil => rfl
  | left _ ih =>
    rw [List.forall_mem_cons] at hlefts
    rw [List.filter_cons_of_pos hlefts.1, ih hlefts.2 hrights]
  | right _ ih =>
    rw [List.forall_mem_cons] at hrights
    rw [List.filter_cons_of_neg (Bool.eq_false_iff.mp hrights.1), ih hlefts hrights.2]

theorem concat_left (h : Interleaves lefts rights mixed) (a : α) :
    Interleaves (lefts ++ [a]) rights (mixed ++ [a]) := by
  induction h with
  | nil => exact nil.left
  | left _ ih => exact ih.left
  | right _ ih => exact ih.right

theorem filter_eq_filter_right (h : Interleaves lefts rights mixed) {p : α → Bool}
    (hlefts : ∀ a ∈ lefts, p a = false) : mixed.filter p = rights.filter p := by
  induction h with
  | nil => rfl
  | left _ ih =>
    rw [List.forall_mem_cons] at hlefts
    rw [List.filter_cons_of_neg (Bool.eq_false_iff.mp hlefts.1), ih hlefts.2]
  | right _ ih => rw [List.filter_cons, List.filter_cons, ih hlefts]

end Interleaves

namespace Conversation

namespace Action

/-- An event of a turn, reported to the conversation. -/
def isEvent : Action → Bool
  | apply _ _ => true
  | setInput _ | appendInput _ | bootstrap | submit => false

def isTyping : Action → Bool
  | setInput _ | appendInput _ => true
  | bootstrap | submit | apply _ _ => false

/-- The input after an action that has no other effect. -/
def typed (input : String) : Action → String
  | setInput text => text
  | appendInput text => input ++ text
  | bootstrap | submit | apply _ _ => input

/-- What can happen while the reply of a turn remains pending: anything but its end. -/
def Meanwhile (number : Nat) : Action → Prop
  | apply turn event => turn = number ∧ event.isTerminal = false
  | setInput _ | appendInput _ | bootstrap | submit => True

end Action

variable {c : Conversation}

/-! ## The side of the reply -/

theorem apply_setInput (c : Conversation) (input : String) (number : Nat) (event : TurnEvent) :
    (c.setInput input).apply number event =
      ((c.apply number event).1.setInput input, (c.apply number event).2) := by
  rcases c.apply_cases number event with
      ⟨hrefused, h⟩ | ⟨_, hnumber, hpending, ⟨_, htext, rfl, h⟩ | ⟨rfl, h⟩ | ⟨_, rfl, h⟩⟩ <;>
    rw [h]
  · rcases hrefused with hother | hidle | rfl
    · simp [apply, setInput, hother]
    · simp [apply, setInput, hidle]
    · cases hpending : c.pending <;> simp [apply, setInput, hpending]
  · simp [apply, setInput, hnumber, hpending, htext]
  · simp [apply, setInput, hnumber, hpending, settle]
  · simp [apply, setInput, hnumber, hpending, settle]

theorem apply_chunk (hbusy : c.isBusy = true) {number : Nat} {event : TurnEvent}
    (h : event.isTerminal = false) : (c.apply number event).1.isBusy = true := by
  rcases c.apply_cases number event with
      ⟨-, hsame⟩ | ⟨_, -, -, ⟨_, -, rfl, hgrown⟩ | ⟨rfl, -⟩ | ⟨_, rfl, -⟩⟩
  · rw [hsame]
    exact hbusy
  · rw [hgrown]
    rfl
  · cases h
  · cases h

/-! ## The side of the input -/

theorem pending_ne_none (hbusy : c.isBusy = true) : c.pending ≠ none := by
  simpa [isBusy, Option.isSome_iff_ne_none] using hbusy

theorem perform_reader (hbusy : c.isBusy = true) {action : Action}
    (h : action.isEvent = false) :
    (c.perform action).1 = c.setInput (action.typed c.input) ∧
      (action = .bootstrap ∨ action = .submit → (c.perform action).2 = .request none) := by
  obtain ⟨hbootstrap, hsubmit⟩ := c.requests_refused (pending_ne_none hbusy)
  cases action with
  | setInput text => exact ⟨rfl, by simp⟩
  | appendInput text => exact ⟨rfl, by simp⟩
  | bootstrap =>
    rw [perform_bootstrap, hbootstrap]
    exact ⟨rfl, fun _ => rfl⟩
  | submit =>
    rw [perform_submit, hsubmit]
    exact ⟨rfl, fun _ => rfl⟩
  | apply number event => cases h

theorem run_typing (c : Conversation) {actions : List Action}
    (h : ∀ action ∈ actions, action.isTyping = true) :
    (c.run actions).1.input = actions.foldl Action.typed c.input := by
  induction actions generalizing c with
  | nil => rfl
  | cons action rest ih =>
    rw [List.forall_mem_cons] at h
    rw [run_cons, ih _ h.2, List.foldl_cons]
    cases action with
    | setInput text | appendInput text => rfl
    | bootstrap | submit | apply number event => cases h.1

theorem foldl_typed_filter (input : String) (actions : List Action) :
    (actions.filter Action.isTyping).foldl Action.typed input =
      actions.foldl Action.typed input := by
  induction actions generalizing input with
  | nil => rfl
  | cons action rest ih =>
    cases action with
    | setInput text | appendInput text | bootstrap | submit | apply number event => exact ih _

/-! ## Both sides -/

/-- A run is that of its events, with the input as typed, and every request is refused. -/
structure Splits (c : Conversation) (actions : List Action) : Prop where
  state : (c.run actions).1 =
    (c.run (actions.filter Action.isEvent)).1.setInput (actions.foldl Action.typed c.input)
  results : ((actions.zip (c.run actions).2).filter (·.1.isEvent)).map Prod.snd =
    (c.run (actions.filter Action.isEvent)).2
  refused : ∀ step ∈ actions.zip (c.run actions).2,
    step.1 = .bootstrap ∨ step.1 = .submit → step.2 = .request none

theorem splits_nil (c : Conversation) : c.Splits [] := ⟨rfl, rfl, by simp [run]⟩

variable {actions : List Action}

theorem Splits.refused_concat (h : c.Splits actions) {action : Action}
    (hlast : action = .bootstrap ∨ action = .submit →
      ((c.run actions).1.perform action).2 = .request none) :
    ∀ step ∈ (actions ++ [action]).zip (c.run (actions ++ [action])).2,
      step.1 = .bootstrap ∨ step.1 = .submit → step.2 = .request none := by
  rw [zip_run_concat]
  intro step hmem
  rcases List.mem_append.mp hmem with hmem | hmem
  · exact h.refused step hmem
  · rw [List.mem_singleton.mp hmem]
    exact hlast

theorem Splits.event (h : c.Splits actions) (number : Nat) (event : TurnEvent) :
    c.Splits (actions ++ [.apply number event]) := by
  have happly := apply_setInput (c.run (actions.filter Action.isEvent)).1
    (actions.foldl Action.typed c.input) number event
  rw [← h.state] at happly
  have hevents : (actions ++ [Action.apply number event]).filter Action.isEvent =
      actions.filter Action.isEvent ++ [Action.apply number event] := List.filter_append ..
  refine ⟨?_, ?_, h.refused_concat (by simp)⟩
  · rw [hevents, run_concat, run_concat, perform_apply, happly, List.foldl_append]
    rfl
  · rw [hevents, zip_run_concat, run_concat, List.filter_append, List.map_append, h.results,
      perform_apply, happly]
    rfl

theorem Splits.reader (h : c.Splits actions) (hbusy : (c.run actions).1.isBusy = true)
    {action : Action} (hreader : action.isEvent = false) : c.Splits (actions ++ [action]) := by
  obtain ⟨hnext, hrefused⟩ := perform_reader hbusy hreader
  have hevents : (actions ++ [action]).filter Action.isEvent =
      actions.filter Action.isEvent := by
    rw [List.filter_append, List.filter_cons_of_neg (by simp [hreader]), List.filter_nil,
      List.append_nil]
  refine ⟨?_, ?_, h.refused_concat hrefused⟩
  · rw [hevents, run_concat, hnext, h.state, List.foldl_append]
    rfl
  · rw [hevents, zip_run_concat, List.filter_append, List.filter_cons_of_neg (by simp [hreader]),
      List.filter_nil, List.append_nil, h.results]

/-- Until the end of its reply a run splits, and the reply remains pending. -/
theorem splits_meanwhile (hbusy : c.isBusy = true)
    (h : ∀ action ∈ actions, action.Meanwhile c.turn) :
    c.Splits actions ∧ (c.run actions).1.isBusy = true ∧ (c.run actions).1.turn = c.turn := by
  induction actions using List.reverseRec with
  | nil => exact ⟨c.splits_nil, hbusy, rfl⟩
  | append_singleton before action ih =>
    rw [List.forall_mem_append, List.forall_mem_singleton] at h
    obtain ⟨hbefore, haction⟩ := h
    obtain ⟨hsplits, hstill, hturn⟩ := ih hbefore
    cases hevent : action.isEvent with
    | false =>
      refine ⟨hsplits.reader hstill hevent, ?_⟩
      rw [run_concat, (perform_reader hstill hevent).1]
      exact ⟨hstill, hturn⟩
    | true =>
      cases action with
      | setInput text | appendInput text | bootstrap | submit => cases hevent
      | apply number event =>
        refine ⟨hsplits.event number event, ?_⟩
        rw [run_concat, perform_apply]
        exact ⟨apply_chunk hstill haction.2,
          ((c.run before).1.apply_keeps number event).1.trans hturn⟩

theorem run_events_bootstrapped (c : Conversation) {events : List Action}
    (h : ∀ action ∈ events, action.isEvent = true) :
    (c.run events).1.bootstrapped = c.bootstrapped := by
  induction events generalizing c with
  | nil => rfl
  | cons action rest ih =>
    rw [List.forall_mem_cons] at h
    cases action with
    | setInput text | appendInput text | bootstrap | submit => cases h.1
    | apply number event =>
      obtain ⟨-, -, hbootstrapped, -⟩ := c.apply_keeps number event
      rw [run_cons, ih _ h.2]
      exact hbootstrapped

/-! ## The main statement -/

structure Undisturbed (c : Conversation) (events users actions : List Action) : Prop where
  refused : ∀ step ∈ actions.zip (c.run actions).2,
    step.1 = .bootstrap ∨ step.1 = .submit → step.2 = .request none
  results : ((actions.zip (c.run actions).2).filter (·.1.isEvent)).map Prod.snd =
    (c.run events).2
  messages : (c.run actions).1.messages = (c.run events).1.messages
  phase : (c.run actions).1.phase = (c.run events).1.phase
  last_failure : (c.run actions).1.lastFailure = (c.run events).1.lastFailure
  turn : (c.run actions).1.turn = (c.run events).1.turn
  input : (c.run actions).1.input = (c.run (users.filter Action.isTyping)).1.input
  bootstrapped : (c.run actions).1.bootstrapped = c.bootstrapped
  greeting : c.bootstrapped = false → ∃ request, (c.run actions).1.bootstrap.2 = some request

theorem bootstrap_granted (hfirst : c.bootstrapped = false) (hidle : c.pending = none) :
    ∃ request, c.bootstrap.2 = some request := by
  rcases c.bootstrap_cases with ⟨hdone | hbusy, -⟩ | ⟨-, -, h⟩
  · rw [hfirst] at hdone
    cases hdone
  · exact absurd hidle hbusy
  · exact ⟨_, by rw [h]⟩

/-- **A pending reply and its reader do not disturb each other**, however the events of the
reply and what the reader does before its end are mixed. -/
theorem undisturbed_run (c : Conversation) (hbusy : c.isBusy = true) {chunks : List TurnEvent}
    (hchunks : ∀ event ∈ chunks, event.isTerminal = false) {last : TurnEvent}
    (hlast : last.isTerminal = true) {users : List Action}
    (husers : ∀ action ∈ users, action.isEvent = false) {mixed : List Action}
    (hmixed : Interleaves (chunks.map (.apply c.turn)) users mixed) :
    c.Undisturbed ((chunks ++ [last]).map (.apply c.turn)) users
      (mixed ++ [.apply c.turn last]) := by
  have hmeanwhile : ∀ action ∈ mixed, action.Meanwhile c.turn := by
    intro action hmem
    rcases hmixed.mem_or_mem hmem with hmem | hmem
    · obtain ⟨event, hevent, rfl⟩ := List.mem_map.mp hmem
      exact ⟨rfl, hchunks event hevent⟩
    · have huser := husers action hmem
      cases action with
      | setInput text | appendInput text | bootstrap | submit => trivial
      | apply number event => cases huser
  have hall : Interleaves ((chunks ++ [last]).map (.apply c.turn)) users
      (mixed ++ [.apply c.turn last]) := by
    rw [List.map_append]
    exact hmixed.concat_left _
  have hevents : ∀ action ∈ (chunks ++ [last]).map (Action.apply c.turn),
      action.isEvent = true := List.forall_mem_map.mpr fun _ _ => rfl
  have hsilent : ∀ action ∈ (chunks ++ [last]).map (Action.apply c.turn),
      action.isTyping = false := List.forall_mem_map.mpr fun _ _ => rfl
  obtain ⟨hsplits, -, hturn⟩ := splits_meanwhile hbusy hmeanwhile
  have hidle : (c.run (mixed ++ [.apply c.turn last])).1.pending = none := by
    rw [run_concat, perform_apply]
    exact (c.run mixed).1.apply_terminal hturn.symm hlast
  have hends := hsplits.event c.turn last
  -- from here on only the whole lists matter
  generalize mixed ++ [.apply c.turn last] = actions at hall hidle hends ⊢
  generalize (chunks ++ [last]).map (Action.apply c.turn) = events at hall hevents hsilent ⊢
  have htyped : actions.foldl Action.typed c.input =
      (c.run (users.filter Action.isTyping)).1.input := by
    rw [run_typing c (by simp), ← hall.filter_eq_filter_right hsilent, foldl_typed_filter]
  have hstate := hends.state
  have hresults := hends.results
  rw [hall.filter_eq_left hevents husers, htyped] at hstate
  rw [hall.filter_eq_left hevents husers] at hresults
  have hfirst : (c.run actions).1.bootstrapped = c.bootstrapped := by
    rw [hstate]
    exact run_events_bootstrapped c hevents
  exact {
    refused := hends.refused
    results := hresults
    messages := by rw [hstate]; rfl
    phase := by rw [hstate]; rfl
    last_failure := by rw [hstate]; rfl
    turn := by rw [hstate]; rfl
    input := by rw [hstate]; rfl
    bootstrapped := hfirst
    greeting := fun hunused => bootstrap_granted (hfirst.trans hunused) hidle }

/-- A reply goes on while its reader asks in vain for a greeting and an answer, and types. -/
theorem undisturbed_run_while_typing :
    let c := ((fresh "p" {}).run [.setInput "q", .submit, .apply 1 (.chunk "a")]).1
    let chunks : List TurnEvent := [.chunk "b", .chunk ""]
    let users : List Action := [.bootstrap, .setInput "x", .submit, .appendInput "y"]
    let mixed : List Action := [.bootstrap, .apply 1 (.chunk "b"), .setInput "x", .submit,
      .apply 1 (.chunk ""), .appendInput "y"]
    c.isBusy = true ∧ Interleaves (chunks.map (.apply c.turn)) users mixed ∧
      (c.run (mixed ++ [.apply c.turn .finished])).1.messages = [.user "q", .assistant "ab"] ∧
      (c.run (mixed ++ [.apply c.turn .finished])).1.input = "xy" ∧
      ∃ request, (c.run (mixed ++ [.apply c.turn .finished])).1.bootstrap.2 = some request := by
  intro c chunks users mixed
  have hmixed : Interleaves (chunks.map (.apply c.turn)) users mixed :=
    .right (.left (.right (.right (.left (.right .nil)))))
  have hboth : c.Undisturbed ((chunks ++ [TurnEvent.finished]).map (.apply c.turn)) users
      (mixed ++ [.apply c.turn .finished]) :=
    undisturbed_run c (by decide +kernel) (by decide) rfl (by decide) hmixed
  refine ⟨by decide +kernel, hmixed, ?_, ?_, hboth.greeting (by decide +kernel)⟩
  · rw [hboth.messages]
    decide +kernel
  · rw [hboth.input]
    decide +kernel

end Conversation

end GuidedChat
