import GuidedChat.Guided.Works
import GuidedChat.Proofs.Guided.Steps
import Mathlib.Data.List.DropRight
import Mathlib.Data.List.Induction

/-! # A restart forgets the past

All that a restart keeps of a flow are its steps and its completion message, and no action changes
these. So a restarted flow is what it was when it was created (`restart_run`), also where a
transition was pending or the flow had ended: whatever is done to it then gives the same results
and leads to the same states, answers and transcripts as if nothing had been done before
(`forgetful_run`). -/

namespace GuidedChat.GuidedFlow

def trace (flow : GuidedFlow) : List Action → List (Outcome × GuidedFlow)
  | [] => []
  | action :: rest =>
    ((flow.perform action).2, (flow.perform action).1) :: (flow.perform action).1.trace rest

/-- What a restart makes of a flow of these steps that was created so and has this past. -/
structure Forgetful (created : GuidedFlow) (completionMessage : String) (steps : List Step)
    (past : List Action) : Prop where
  steps_eq : (created.run past).1.steps = steps
  message_eq : (created.run past).1.completionMessage = completionMessage
  anew : ∀ later, (created.run past).1.restart.trace later = created.trace later
  /-- The past may be cut off a history in front of the restart. -/
  history : ∀ later, created.trace (past ++ .restart :: later) =
    created.trace past ++ (.done, created) :: created.trace later
  /-- Where a flow stands is told by what was done since its last restart. -/
  recent : (created.run past).1 = (created.run (past.rtakeWhile (· ≠ .restart))).1

theorem withCompletionMessage_ofSteps (steps : List Step) (completionMessage : String) :
    (ofSteps steps).withCompletionMessage completionMessage = start completionMessage steps := by
  cases steps <;> rfl

variable (flow : GuidedFlow)

theorem trace_append (before after : List Action) :
    flow.trace (before ++ after) = flow.trace before ++ (flow.run before).1.trace after := by
  induction before generalizing flow with
  | nil => rfl
  | cons action rest ih =>
    rw [List.cons_append, trace, trace, run_cons, ih, List.cons_append]

theorem run_concat (actions : List Action) (last : Action) :
    (flow.run (actions ++ [last])).1 = ((flow.run actions).1.perform last).1 := by
  induction actions generalizing flow with
  | nil => rfl
  | cons action rest ih => rw [List.cons_append, run_cons, run_cons, ih]

theorem run_start_setup (completionMessage : String) (steps : List Step) (past : List Action) :
    ((start completionMessage steps).run past).1.steps = steps ∧
      ((start completionMessage steps).run past).1.completionMessage = completionMessage := by
  obtain ⟨hsteps, hmessage⟩ := (start completionMessage steps).run_setup past
  obtain ⟨hstart, hown⟩ := start_setup completionMessage steps
  exact ⟨hsteps.trans hstart, hmessage.trans hown⟩

theorem perform_restart : flow.perform .restart = (flow.restart, .done) := rfl

/-- Whatever was done to a flow, a restart makes it what it was at its start. -/
theorem restart_run (completionMessage : String) (steps : List Step) (past : List Action) :
    ((start completionMessage steps).run past).1.restart = start completionMessage steps := by
  obtain ⟨hsteps, hmessage⟩ := run_start_setup completionMessage steps past
  rw [restart, hsteps, hmessage]

theorem run_rtakeWhile (completionMessage : String) (steps : List Step) (actions : List Action) :
    ((start completionMessage steps).run actions).1 =
      ((start completionMessage steps).run (actions.rtakeWhile (· ≠ .restart))).1 := by
  induction actions using List.reverseRec with
  | nil => rfl
  | append_singleton before last ih =>
    rw [run_concat]
    by_cases hlast : last = .restart
    · subst hlast
      rw [List.rtakeWhile_concat_neg _ _ _ (by simp)]
      exact restart_run completionMessage steps before
    · rw [List.rtakeWhile_concat_pos _ _ _ (by simp [hlast]), run_concat, ih]

/-- **A restart forgets the past**, whatever was done to a flow since it was created. -/
theorem forgetful_run (completionMessage : String) (steps : List Step) (past : List Action) :
    ((ofSteps steps).withCompletionMessage completionMessage).Forgetful completionMessage steps
      past := by
  rw [withCompletionMessage_ofSteps]
  obtain ⟨hsteps, hmessage⟩ := run_start_setup completionMessage steps past
  have hrestart := restart_run completionMessage steps past
  exact {
    steps_eq := hsteps
    message_eq := hmessage
    anew := fun later => by rw [hrestart]
    history := fun later => by rw [trace_append, trace, perform_restart, hrestart]
    recent := run_rtakeWhile completionMessage steps past }

/-- A transition that was pending is not revealed after a restart. -/
example : (introduction.run [.tap, .restart, .reveal]).2 =
    [.advance (.transitioning pacingDelay), .done, .revealed false] := by
  decide

end GuidedChat.GuidedFlow
