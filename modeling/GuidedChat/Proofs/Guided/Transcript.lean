import GuidedChat.Proofs.Guided.Gathered
import Mathlib.Data.List.Induction

/-! # The transcript of a guided flow

What a flow has shown and what it was answered stands in its transcript in that order, and the
answers it keeps are those of the transcript (`faithful_run`). Each action adds to the end what
it tells of itself: the answer that was accepted, the completion message, the step that was
revealed (`logs`). That the last entry is the text on display has a reason of its own:
answers change only where a step is left. -/

namespace GuidedChat

def Answers.note (answers : Answers) (accepted : Step × String) : Answers :=
  match accepted.1.key with
  | some key => answers.insert key accepted.2
  | none => answers

/-- The last answer that a step with this key accepted. -/
def Answers.latest (key : String) (log : List (Step × String)) : Option String :=
  ((log.filter (·.1.key = some key)).getLast?).map (·.2)

namespace GuidedFlow

/-- The answer that an action gives where it is accepted. -/
def Action.answer? : Action → Option String
  | .select option => some option
  | .submitText text => some (Text.trim text)
  | _ => none

def Outcome.isCompletion : Outcome → Bool
  | .advance (.completed _) => true
  | _ => false

/-- The answer that an action gives to the step that is shown, unless it is ignored. -/
def accepted (flow : GuidedFlow) (action : Action) : Option (Step × String) :=
  if (flow.perform action).2 = .advance .ignored then none
  else flow.currentStep.bind fun step => action.answer?.map (step, ·)

/-- The answers since the last restart after one more action. -/
def noted (flow : GuidedFlow) (log : List (Step × String)) (action : Action) :
    List (Step × String) :=
  if action = .restart then [] else log ++ (flow.accepted action).toList

/-- The answers accepted since the last restart, in their order, where those of `log` were
accepted before. -/
def acceptedAll (flow : GuidedFlow) (log : List (Step × String)) :
    List Action → List (Step × String)
  | [] => log
  | action :: rest => (flow.perform action).1.acceptedAll (flow.noted log action) rest

def entered (answers : List (Step × String)) : List Message :=
  answers.map fun answer => .user answer.2

/-- What an action adds to the transcript, read off what it gives back. -/
def added (flow : GuidedFlow) (action : Action) : List Message :=
  entered (flow.accepted action).toList ++
    match (flow.perform action).2 with
    | .advance (.completed _) => [.assistant flow.completionMessage]
    | .revealed true => (flow.perform action).1.currentText.toList.map .assistant
    | _ => []

/-- What the transcript and the answers of a flow of these steps tell of its history, in which
these answers were accepted since the last restart. -/
structure Faithful (flow : GuidedFlow) (completionMessage : String) (steps : List Step)
    (log : List (Step × String)) : Prop where
  grows : ∀ later, .restart ∉ later → flow.transcript <+: (flow.run later).1.transcript
  adds : ∀ action, action ≠ .restart →
    (flow.perform action).1.transcript = flow.transcript ++ flow.added action
  shows : ∀ i, flow.stage = .showing i → ∃ step, steps[i]? = some step ∧
    flow.currentText = some (step.text.render flow.answers) ∧
      flow.transcript.getLast? = some (.assistant (step.text.render flow.answers))
  users : flow.transcript.filter (·.role = .user) = entered log
  answers : ∀ key answer, (key, answer) ∈ flow.answers.entries ↔
    Answers.latest key log = some answer
  closes_iff : ∀ input : Action, input.isInput = true →
    ((flow.perform input).2.isCompletion = true ↔
      (flow.perform input).1.transcript =
        flow.transcript ++ entered (flow.accepted input).toList ++ [.assistant completionMessage])
  closes_once : ∀ later, .restart ∉ later →
    (flow.run later).2.countP Outcome.isCompletion ≤ 1

/-! ## Answers by key -/

theorem latest_concat (key : String) (log : List (Step × String)) (last : Step × String) :
    Answers.latest key (log ++ [last]) =
      if last.1.key = some key then some last.2 else Answers.latest key log := by
  rw [Answers.latest, List.filter_append, Answers.latest]
  by_cases h : last.1.key = some key <;> simp [h]

theorem sorted_foldl_note {answers : Answers} (h : answers.Sorted) (log : List (Step × String)) :
    (log.foldl Answers.note answers).Sorted := by
  induction log generalizing answers with
  | nil => exact h
  | cons first rest ih =>
    refine ih ?_
    rw [Answers.note]
    split
    · exact h.insert _ _
    · exact h

theorem get?_foldl_note (key : String) (log : List (Step × String)) :
    (log.foldl Answers.note {}).get? key = Answers.latest key log := by
  induction log using List.reverseRec with
  | nil => rfl
  | append_singleton before last ih =>
    rw [List.foldl_append, latest_concat, List.foldl_cons, List.foldl_nil, Answers.note]
    split
    · rename_i own hown
      rw [hown, Answers.get?_insert, ih]
      simp [eq_comm]
    · rename_i hnone
      rw [hnone, ih]
      rfl

/-! ## What one action adds -/

variable {flow : GuidedFlow} {action : Action} {log : List (Step × String)}

theorem transcript_keep (flow : GuidedFlow) (step : Step) (answer : Option String) :
    (flow.keep step answer).transcript =
      flow.transcript ++ entered (answer.map (step, ·)).toList := by
  cases answer with
  | none => exact (List.append_nil _).symm
  | some text => rfl

theorem answers_keep (flow : GuidedFlow) (step : Step) (answer : Option String) :
    (flow.keep step answer).answers =
      (answer.map (step, ·)).toList.foldl Answers.note flow.answers := by
  cases answer <;> rfl

theorem currentStep_of_showing {index : Fin flow.steps.length} {step : Step}
    (hstate : flow.state = .showing index) (hstep : flow.steps[index.val]? = some step) :
    flow.currentStep = some step := by
  obtain ⟨_, rfl⟩ := List.getElem?_eq_some_iff.mp hstep
  rw [currentStep, hstate]
  rfl

theorem Action.Suits.answer?_eq {step : Step} {answer : Option String}
    (h : action.Suits step answer) : action.answer? = answer := by
  cases h <;> rfl

theorem accepted_eq_none (flow : GuidedFlow) (h : action.answer? = none) :
    flow.accepted action = none := by
  unfold accepted
  split <;> simp [h]

theorem accepted_back (flow : GuidedFlow) (h : action.isBackward = true) :
    flow.accepted action = none := by
  refine flow.accepted_eq_none ?_
  cases action with
  | back | key command => rfl
  | tap | select option | submitText text | reveal | restart => cases h

theorem accepted_ahead {index : Fin flow.steps.length} {step : Step} {answer : Option String}
    (hstate : flow.state = .showing index) (hstep : flow.steps[index.val]? = some step)
    (hsuits : action.Suits step answer) (h : (flow.perform action).2 ≠ .advance .ignored) :
    flow.accepted action = answer.map (step, ·) := by
  rw [accepted, if_neg h, currentStep_of_showing hstate hstep, hsuits.answer?_eq]
  rfl

/-- What an action tells of itself: it adds to the transcript, keeps the answer that it gives,
and a text that comes to be shown is all that it adds. -/
structure Logs (flow : GuidedFlow) (action : Action) : Prop where
  transcript : (flow.perform action).1.transcript = flow.transcript ++ flow.added action
  answers : (flow.perform action).1.answers =
    (flow.accepted action).toList.foldl Answers.note flow.answers
  shown : ∀ text, (flow.perform action).1.currentText = some text →
    (flow.perform action).1 = flow ∨ flow.added action = [.assistant text]

theorem Returns.logs {led : GuidedFlow × Advance} (h : flow.Returns led)
    (hback : action.isBackward = true) (hperform : flow.perform action = (led.1, .advance led.2)) :
    flow.Logs action := by
  obtain ⟨index, target, -, -, rfl⟩ := h
  have hnone := flow.accepted_back hback
  constructor
  · rw [added, hnone, hperform]
    exact (List.append_nil _).symm
  · rw [hnone, hperform]
    rfl
  · rw [hperform]
    intro text htext
    cases htext

theorem Leads.logs {led : GuidedFlow × Advance} (h : flow.Leads action led)
    (hperform : flow.perform action = (led.1, .advance led.2)) : flow.Logs action := by
  obtain ⟨index, step, answer, hstate, hstep, hsuits, rfl⟩ := h
  have htranscript := flow.transcript_keep step answer
  have hanswers := flow.answers_keep step answer
  rcases (flow.keep step answer).advanceFrom_cases index with ⟨_, hled⟩ | ⟨-, hled⟩
  · rw [hled] at hperform
    have haccepted := accepted_ahead hstate hstep hsuits (by simp [hperform])
    constructor
    · rw [added, haccepted, hperform, List.append_nil]
      exact htranscript
    · rw [haccepted, hperform]
      exact hanswers
    · rw [hperform]
      intro text htext
      cases htext
  · rw [hled] at hperform
    have haccepted := accepted_ahead hstate hstep hsuits (by simp [hperform])
    constructor
    · rw [added, haccepted, hperform, ← List.append_assoc, ← htranscript]
      rfl
    · rw [haccepted, hperform]
      exact hanswers
    · rw [hperform]
      intro text htext
      cases htext

theorem logs_reveal (flow : GuidedFlow) : flow.Logs .reveal := by
  have hnone : flow.accepted .reveal = none := flow.accepted_eq_none rfl
  rcases flow.reveal_cases with ⟨-, hreveal⟩ | ⟨target, step, -, hstep, hreveal⟩
  · constructor
    · rw [added, hnone, perform_reveal, hreveal]
      exact (List.append_nil _).symm
    · rw [hnone, perform_reveal, hreveal]
      rfl
    · rw [perform_reveal, hreveal]
      exact fun _ _ => .inl rfl
  · have hshown : flow.reveal.1.currentText = some (step.text.render flow.answers) := by
      rw [hreveal]
      exact currentText_eq hstep rfl
    have hadded : flow.added .reveal = [.assistant (step.text.render flow.answers)] := by
      rw [added, hnone, perform_reveal, hshown, hreveal]
      rfl
    constructor
    · rw [hadded, perform_reveal, hreveal]
    · rw [hnone, perform_reveal, hreveal]
      rfl
    · intro text htext
      rw [perform_reveal, hshown] at htext
      cases htext
      exact .inr hadded

/-- Every action but a restart tells of itself. -/
theorem logs (flow : GuidedFlow) (h : action ≠ .restart) : flow.Logs action := by
  rcases action.input_or with hinput | rfl | rfl
  · obtain ⟨led, hperform, rfl | ⟨hback, hreturns⟩ | ⟨-, hleads⟩⟩ := flow.input_cases hinput
    · have hnone : flow.accepted action = none := by rw [accepted, hperform, if_pos rfl]
      constructor
      · rw [added, hnone, hperform]
        exact (List.append_nil _).symm
      · rw [hnone, hperform]
        rfl
      · rw [hperform]
        exact fun _ _ => .inl rfl
    · exact hreturns.logs hback hperform
    · exact hleads.logs hperform
  · exact flow.logs_reveal
  · exact absurd rfl h

/-! ## The invariant -/

/-- A flow whose transcript and answers tell that these answers were accepted, with what is
shown at the end. -/
structure Logged (flow : GuidedFlow) (log : List (Step × String)) : Prop where
  users : flow.transcript.filter (·.role = .user) = entered log
  answers : flow.answers = log.foldl Answers.note {}
  shown : ∀ text, flow.currentText = some text →
    flow.transcript.getLast? = some (.assistant text)

theorem logged_start (completionMessage : String) (steps : List Step) :
    (start completionMessage steps).Logged [] := by
  cases steps with
  | nil => exact ⟨rfl, rfl, fun _ h => nomatch h⟩
  | cons step rest =>
    refine ⟨rfl, rfl, fun text h => ?_⟩
    cases h
    rfl

theorem users_added (flow : GuidedFlow) (action : Action) :
    (flow.added action).filter (·.role = .user) = entered (flow.accepted action).toList := by
  have hentered (answers : List (Step × String)) :
      (entered answers).filter (·.role = .user) = entered answers :=
    List.filter_eq_self.mpr (List.forall_mem_map.mpr fun _ _ => rfl)
  rw [added, List.filter_append, hentered]
  split <;> simp [Message.assistant]

theorem Logged.perform (h : flow.Logged log) (action : Action) :
    (flow.perform action).1.Logged (flow.noted log action) := by
  by_cases hrestart : action = .restart
  · rw [hrestart]
    exact logged_start flow.completionMessage flow.steps
  have hlogs := flow.logs hrestart
  rw [noted, if_neg hrestart]
  constructor
  · rw [hlogs.transcript, List.filter_append, h.users, users_added, entered, entered, entered,
      List.map_append]
  · rw [hlogs.answers, h.answers, List.foldl_append]
  · intro text htext
    rcases hlogs.shown text htext with hsame | hadded
    · rw [hsame] at htext ⊢
      exact h.shown text htext
    · rw [hlogs.transcript, hadded, List.getLast?_concat]

theorem Logged.run (h : flow.Logged log) (actions : List Action) :
    (flow.run actions).1.Logged (flow.acceptedAll log actions) := by
  induction actions generalizing flow log with
  | nil => exact h
  | cons action rest ih => exact ih (h.perform action)

/-! ## Between restarts -/

theorem transcript_grows (flow : GuidedFlow) {later : List Action} (h : .restart ∉ later) :
    flow.transcript <+: (flow.run later).1.transcript := by
  induction later generalizing flow with
  | nil => exact List.prefix_rfl
  | cons action rest ih =>
    rw [List.mem_cons, not_or] at h
    rw [run_cons]
    refine List.IsPrefix.trans ?_ (ih _ h.2)
    rw [(flow.logs (Ne.symm h.1)).transcript]
    exact List.prefix_append ..

theorem perform_completed (h : flow.stage = .completed) (hne : action ≠ .restart) :
    (flow.perform action).1 = flow ∧ (flow.perform action).2.isCompletion = false := by
  rcases action.input_or with hinput | rfl | rfl
  · obtain ⟨led, hperform, rfl | ⟨i, hstage, -⟩⟩ := flow.input_stages hinput
    · rw [hperform]
      exact ⟨rfl, rfl⟩
    · rw [h] at hstage
      cases hstage
  · rw [perform_reveal]
    rcases flow.reveal_cases with ⟨-, hreveal⟩ | ⟨target, _, hstate, -⟩
    · rw [hreveal]
      exact ⟨rfl, rfl⟩
    · rw [stage, hstate] at h
      cases h
  · exact absurd rfl hne

theorem completed_of_advance {answers : Answers}
    (h : (flow.perform action).2 = .advance (.completed answers)) :
    (flow.perform action).1.stage = .completed ∧ answers = (flow.perform action).1.answers := by
  have hinput : action.isInput = true := by
    rcases action.input_or with hinput | rfl | rfl
    · exact hinput
    · cases h
    · cases h
  exact ((flow.orderly.completed_iff action hinput answers).mp h).2

theorem Outcome.isCompletion_iff {outcome : Outcome} :
    outcome.isCompletion = true ↔ ∃ answers, outcome = .advance (.completed answers) := by
  cases outcome with
  | advance advance => cases advance <;> simp [isCompletion]
  | done | revealed changed => simp [isCompletion]

theorem stage_of_isCompletion (h : (flow.perform action).2.isCompletion = true) :
    (flow.perform action).1.stage = .completed := by
  obtain ⟨answers, hadvance⟩ := Outcome.isCompletion_iff.mp h
  exact (completed_of_advance hadvance).1

theorem countP_of_completed (h : flow.stage = .completed) {later : List Action}
    (hlater : .restart ∉ later) : (flow.run later).2.countP Outcome.isCompletion = 0 := by
  induction later with
  | nil => rfl
  | cons action rest ih =>
    rw [List.mem_cons, not_or] at hlater
    obtain ⟨hsame, hnone⟩ := perform_completed h (Ne.symm hlater.1)
    rw [run_cons, hsame, List.countP_cons_of_neg (by simp [hnone]), ih hlater.2]

theorem countP_isCompletion (flow : GuidedFlow) {later : List Action} (h : .restart ∉ later) :
    (flow.run later).2.countP Outcome.isCompletion ≤ 1 := by
  induction later generalizing flow with
  | nil => exact Nat.zero_le _
  | cons action rest ih =>
    rw [List.mem_cons, not_or] at h
    rw [run_cons, List.countP_cons]
    split
    · rename_i hcompletion
      have hnone := countP_of_completed (stage_of_isCompletion hcompletion) h.2
      omega
    · exact ih _ h.2

/-- An input closes a flow where its completion message is added after the answer. -/
theorem isCompletion_perform_iff (flow : GuidedFlow) {input : Action} (h : input.isInput = true) :
    (flow.perform input).2.isCompletion = true ↔
      flow.added input =
        entered (flow.accepted input).toList ++ [.assistant flow.completionMessage] := by
  obtain ⟨led, hperform, -⟩ := flow.input_cases h
  rw [added, List.append_cancel_left_eq, hperform]
  cases led.2 <;> simp [Outcome.isCompletion]

/-- **The transcript of a flow is a faithful log** of what was done to it since its start or its
last restart. -/
theorem faithful_run (completionMessage : String) (steps : List Step) (actions : List Action) :
    ((start completionMessage steps).run actions).1.Faithful completionMessage steps
      ((start completionMessage steps).acceptedAll [] actions) := by
  obtain ⟨hsteps, hmessage⟩ := (start completionMessage steps).run_setup actions
  rw [(start_setup completionMessage steps).1] at hsteps
  rw [(start_setup completionMessage steps).2] at hmessage
  have hlogged := (logged_start completionMessage steps).run actions
  generalize ((start completionMessage steps).run actions).1 = flow at *
  generalize (start completionMessage steps).acceptedAll [] actions = log at *
  subst hsteps hmessage
  constructor
  · exact fun later hlater => flow.transcript_grows hlater
  · exact fun action haction => (flow.logs haction).transcript
  · intro i hstage
    obtain ⟨step, hstep⟩ : ∃ step, flow.steps[i]? = some step :=
      ⟨_, List.getElem?_eq_getElem (stage_lt (.inl hstage))⟩
    have htext := currentText_eq hstep hstage
    exact ⟨step, hstep, htext, hlogged.shown _ htext⟩
  · exact hlogged.users
  · intro key answer
    have hsorted : flow.answers.Sorted := by
      rw [hlogged.answers]
      exact sorted_foldl_note Answers.sorted_empty log
    rw [hsorted.mem_iff, hlogged.answers, get?_foldl_note]
  · intro input hinput
    have hne : input ≠ .restart := by
      intro hrestart
      rw [hrestart] at hinput
      cases hinput
    rw [flow.isCompletion_perform_iff hinput, (flow.logs hne).transcript, List.append_assoc,
      List.append_cancel_left_eq]
  · exact fun later hlater => flow.countP_isCompletion hlater

end GuidedFlow

end GuidedChat
