import GuidedChat.Proofs.Guided.Orderly

/-! # No answer is skipped

Whoever stands at a step of a guided flow has answered every earlier step that asks for an
answer and has a key for it, however often steps were left backwards, answered again or begun
anew (`gathered_run`). So a text that depends on earlier answers finds them. Every answer that
is kept was one that its step admits. The invariant compares the answers with how far the flow
has come (`Complete`); going ahead by a step answers just that step, and going back only asks
for less. -/

namespace GuidedChat.GuidedFlow

/-- The step asks for an answer, and keeps it under this key. -/
def Asks (step : Step) (key : String) : Prop := step.input ≠ .tap ∧ step.key = some key

/-- The first `count` steps have the answers that they ask for. -/
def Complete (steps : List Step) (count : Nat) (answers : Answers) : Prop :=
  ∀ j step key, j < count → steps[j]? = some step → Asks step key →
    ∃ answer, answers.get? key = some answer

/-- Every answer is admitted by a step that has its key. -/
def Admitted (steps : List Step) (answers : Answers) : Prop :=
  ∀ key answer, (key, answer) ∈ answers.entries →
    ∃ step ∈ steps, step.key = some key ∧ step.input.Admits answer

/-- What is known of the answers wherever a flow of these steps stands. -/
structure Gathered (flow : GuidedFlow) (steps : List Step) : Prop where
  ahead : ∀ i, flow.stage = .showing i ∨ flow.stage = .transitioning i →
    Complete steps i flow.answers
  completed : flow.stage = .completed → Complete steps steps.length flow.answers
  admitted : Admitted steps flow.answers
  shown : ∀ i step, steps[i]? = some step → flow.stage = .showing i →
    flow.currentText = some (step.text.render flow.answers)
  revealed : ∀ i step, steps[i]? = some step → flow.stage = .transitioning i →
    flow.reveal.1.transcript =
      flow.transcript ++ [.assistant (step.text.render flow.answers)]

/-! ## Answers that are kept -/

variable {steps : List Step} {answers : Answers} {flow : GuidedFlow} {action : Action}

theorem Complete.mono {i j : Nat} (h : Complete steps i answers) (hle : j ≤ i) :
    Complete steps j answers :=
  fun k step key hk => h k step key (Nat.lt_of_lt_of_le hk hle)

theorem Complete.zero : Complete steps 0 answers := fun _ _ _ h => absurd h (Nat.not_lt_zero _)

/-- An answer is never lost to another. -/
theorem Complete.insert {i : Nat} (h : Complete steps i answers) (key answer : String) :
    Complete steps i (answers.insert key answer) := by
  intro j step key' hj hstep hasks
  rw [Answers.get?_insert]
  split
  · exact ⟨answer, rfl⟩
  · exact h j step key' hj hstep hasks

theorem Admitted.insert (h : Admitted steps answers) {step : Step} (hmem : step ∈ steps)
    {key answer : String} (hkey : step.key = some key) (hadmits : step.input.Admits answer) :
    Admitted steps (answers.insert key answer) := by
  intro key' answer' hentry
  rcases Answers.mem_entries_insert hentry with heq | hentry
  · cases heq
    exact ⟨step, hmem, hkey, hadmits⟩
  · exact h key' answer' hentry

theorem Action.Suits.admits {step : Step} {answer : String}
    (h : action.Suits step (some answer)) : step.input.Admits answer := by
  cases h with
  | select hinput hmem =>
    rw [hinput]
    exact hmem
  | text hinput hne =>
    rw [hinput]
    exact ⟨hne, Text.trim_trim _⟩

theorem Action.Suits.isSome {step : Step} {answer : Option String}
    (h : action.Suits step answer) (hasked : step.input ≠ .tap) : ∃ text, answer = some text := by
  cases h with
  | tap hinput | next hinput => exact absurd hinput hasked
  | select | text => exact ⟨_, rfl⟩

/-- A step that an action suits gets the answer that it asks for. -/
theorem Action.Suits.kept {step : Step} {answer : Option String} (h : action.Suits step answer)
    {key : String} (hasks : Asks step key) :
    ∃ text, (flow.keep step answer).answers.get? key = some text := by
  obtain ⟨hasked, hkey⟩ := hasks
  obtain ⟨text, rfl⟩ := h.isSome hasked
  rcases flow.keep_cases step (some text) with ⟨hnone | hnone, -⟩ | ⟨own, _, hown, -, hkept⟩
  · cases hnone
  · rw [hnone] at hkey
    cases hkey
  · rw [hown] at hkey
    cases hkey
    rw [hkept, Answers.get?_insert, if_pos rfl]
    exact ⟨_, rfl⟩

theorem Complete.keep {i : Nat} {step : Step} {answer : Option String}
    (h : Complete flow.steps i flow.answers) (hstep : flow.steps[i]? = some step)
    (hsuits : action.Suits step answer) :
    Complete flow.steps (i + 1) (flow.keep step answer).answers := by
  intro j other key hj hother hasks
  by_cases hji : j = i
  · subst hji
    rw [hstep] at hother
    cases hother
    exact hsuits.kept hasks
  · have hearlier : Complete flow.steps i (flow.keep step answer).answers := by
      rcases flow.keep_cases step answer with ⟨-, hkept⟩ | ⟨own, text, -, -, hkept⟩
      · rw [hkept]
        exact h
      · rw [hkept]
        exact h.insert own text
    exact hearlier j other key (by omega) hother hasks

theorem Admitted.keep (h : Admitted flow.steps flow.answers) {step : Step}
    (hmem : step ∈ flow.steps) {answer : Option String} (hsuits : action.Suits step answer) :
    Admitted flow.steps (flow.keep step answer).answers := by
  rcases flow.keep_cases step answer with ⟨-, hkept⟩ | ⟨key, text, hkey, rfl, hkept⟩
  · rw [hkept]
    exact h
  · rw [hkept]
    exact h.insert hmem hkey hsuits.admits

/-! ## The invariant -/

/-- How many steps are behind a flow. -/
def Stage.behind (count : Nat) : Stage → Nat
  | showing index => index
  | transitioning target => target
  | completed => count

/-- The steps behind a flow are answered, and no answer came from anywhere else. -/
def Sourced (flow : GuidedFlow) : Prop :=
  Complete flow.steps (flow.stage.behind flow.steps.length) flow.answers ∧
    Admitted flow.steps flow.answers

theorem sourced_start (completionMessage : String) (steps : List Step) :
    (start completionMessage steps).Sourced := by
  cases steps with
  | nil => exact ⟨Complete.zero, fun _ _ h => nomatch h⟩
  | cons step rest => exact ⟨Complete.zero, fun _ _ h => nomatch h⟩

namespace Sourced

theorem returns (h : flow.Sourced) {led : GuidedFlow × Advance} (hled : flow.Returns led) :
    led.1.Sourced := by
  obtain ⟨index, target, hstate, htarget, rfl⟩ := hled
  obtain ⟨hcomplete, hadmitted⟩ := h
  have hstage : flow.stage = .showing (target + 1) := by simp [stage, hstate, htarget]
  rw [hstage] at hcomplete
  exact ⟨hcomplete.mono (Nat.le_succ target), hadmitted⟩

theorem leads (h : flow.Sourced) {led : GuidedFlow × Advance} (hled : flow.Leads action led) :
    led.1.Sourced := by
  obtain ⟨index, step, answer, hstate, hstep, hsuits, rfl⟩ := hled
  obtain ⟨hcomplete, hadmitted⟩ := h
  have hstage : flow.stage = .showing index := by simp [stage, hstate]
  rw [hstage] at hcomplete
  have hkept : Complete flow.steps (index + 1) (flow.keep step answer).answers :=
    Complete.keep hcomplete hstep hsuits
  have hfrom := hadmitted.keep (List.mem_of_getElem? hstep) hsuits
  rcases (flow.keep step answer).advanceFrom_cases index with
    ⟨_, hled⟩ | ⟨hlast, hled⟩
  · rw [hled]
    exact ⟨hkept, hfrom⟩
  · have hbehind : index.val + 1 = flow.steps.length := hlast
    rw [hled]
    rw [hbehind] at hkept
    exact ⟨hkept, hfrom⟩

theorem perform (h : flow.Sourced) (action : Action) : (flow.perform action).1.Sourced := by
  rcases action.input_or with hinput | rfl | rfl
  · obtain ⟨led, hperform, hled⟩ := flow.input_cases hinput
    rw [hperform]
    rcases hled with rfl | ⟨-, hreturns⟩ | ⟨-, hleads⟩
    · exact h
    · exact h.returns hreturns
    · exact h.leads hleads
  · rw [perform_reveal]
    rcases flow.reveal_cases with ⟨-, hreveal⟩ | ⟨target, _, hstate, -, hreveal⟩
    · rw [hreveal]
      exact h
    · have hstage : flow.stage = .transitioning target := by simp [stage, hstate]
      rw [hreveal]
      rw [Sourced, hstage] at h
      exact h
  · exact sourced_start flow.completionMessage flow.steps

theorem run (h : flow.Sourced) (actions : List Action) : (flow.run actions).1.Sourced := by
  induction actions generalizing flow with
  | nil => exact h
  | cons action rest ih =>
    rw [run_cons]
    exact ih (h.perform action)

end Sourced

/-! ## The main statement -/

theorem currentText_eq {i : Nat} {step : Step} (hstep : flow.steps[i]? = some step)
    (h : flow.stage = .showing i) :
    flow.currentText = some (step.text.render flow.answers) := by
  obtain ⟨index, hstate, rfl⟩ := stage_eq_showing_iff.mp h
  obtain ⟨_, rfl⟩ := List.getElem?_eq_some_iff.mp hstep
  rw [currentText, currentStep, hstate]
  rfl

theorem transcript_reveal {i : Nat} {step : Step} (hstep : flow.steps[i]? = some step)
    (h : flow.stage = .transitioning i) :
    flow.reveal.1.transcript =
      flow.transcript ++ [.assistant (step.text.render flow.answers)] := by
  obtain ⟨target, hstate, rfl⟩ := stage_eq_transitioning_iff.mp h
  obtain ⟨_, rfl⟩ := List.getElem?_eq_some_iff.mp hstep
  rw [reveal, hstate]
  rfl

/-- **Every flow has gathered its answers**, whatever was done to it since its start. -/
theorem gathered_run (completionMessage : String) (steps : List Step) (actions : List Action) :
    ((start completionMessage steps).run actions).1.Gathered steps := by
  have hsteps := ((start completionMessage steps).run_setup actions).1
  rw [(start_setup completionMessage steps).1] at hsteps
  obtain ⟨hcomplete, hadmitted⟩ := (sourced_start completionMessage steps).run actions
  generalize ((start completionMessage steps).run actions).1 = flow at *
  subst hsteps
  constructor
  · rintro i (hstage | hstage) <;> rwa [hstage] at hcomplete
  · intro hstage
    rwa [hstage] at hcomplete
  · exact hadmitted
  · exact fun i step hstep hstage => currentText_eq hstep hstage
  · exact fun i step hstep hstage => transcript_reveal hstep hstage

end GuidedChat.GuidedFlow
