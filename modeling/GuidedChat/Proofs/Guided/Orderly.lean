import GuidedChat.Proofs.Guided.Steps

/-! # A guided flow goes step by step

From whatever was done to a flow since its start, what an input gives back tells exactly where
it led (`orderly_run`): nowhere and without a trace, to a transition by one step, or from the
last step to the end. While a step is not yet shown, and after the end, no input has an effect,
and only a transition can be revealed. All of this is read off the stages before and after one
input (`input_stages`); of a run it only has to be known that the steps stay the same. -/

namespace GuidedChat.GuidedFlow

/-- By which step a transition goes. -/
def Action.Heads (action : Action) (i j : Nat) : Prop :=
  if action.isBackward then j + 1 = i else j = i + 1

/-- What holds between a flow of these steps and whatever is done to it next. -/
structure Orderly (flow : GuidedFlow) (steps : List Step) : Prop where
  in_range : ∀ i, flow.stage = .showing i ∨ flow.stage = .transitioning i → i < steps.length
  ignored_iff : ∀ input : Action, input.isInput = true →
    ((flow.perform input).2 = .advance .ignored ↔
      (flow.perform input).1.stage = flow.stage ∧
        (flow.perform input).1.answers = flow.answers ∧
        (flow.perform input).1.transcript = flow.transcript)
  transitioning_iff : ∀ input : Action, input.isInput = true →
    ((∃ delay, (flow.perform input).2 = .advance (.transitioning delay)) ↔
      ∃ i j, flow.stage = .showing i ∧ (flow.perform input).1.stage = .transitioning j ∧
        input.Heads i j)
  completed_iff : ∀ input : Action, input.isInput = true → ∀ answers,
    ((flow.perform input).2 = .advance (.completed answers) ↔
      (∃ i, i + 1 = steps.length ∧ flow.stage = .showing i) ∧
        (flow.perform input).1.stage = .completed ∧ answers = (flow.perform input).1.answers)
  unready : (∃ target, flow.stage = .transitioning target) ∨ flow.stage = .completed →
    ∀ input : Action, input.isInput = true → (flow.perform input).2 = .advance .ignored
  reveal_iff : flow.reveal.2 = true ↔ ∃ target, flow.stage = .transitioning target
  revealed : ∀ target, flow.stage = .transitioning target → flow.reveal.1.stage = .showing target

variable {flow : GuidedFlow} {action : Action} {led : GuidedFlow × Advance}

theorem stage_eq_showing_iff {i : Nat} :
    flow.stage = .showing i ↔ ∃ index, flow.state = .showing index ∧ index.val = i := by
  unfold stage
  cases hstate : flow.state <;> simp

theorem stage_eq_transitioning_iff {i : Nat} :
    flow.stage = .transitioning i ↔
      ∃ target, flow.state = .transitioning target ∧ target.val = i := by
  unfold stage
  cases hstate : flow.state <;> simp

theorem stage_lt {i : Nat} (h : flow.stage = .showing i ∨ flow.stage = .transitioning i) :
    i < flow.steps.length := by
  rw [stage_eq_showing_iff, stage_eq_transitioning_iff] at h
  rcases h with ⟨index, -, rfl⟩ | ⟨index, -, rfl⟩ <;> exact index.isLt

theorem Returns.stages (h : flow.Returns led) :
    ∃ i, flow.stage = .showing (i + 1) ∧ led.1.stage = .transitioning i ∧
      led.2 = .transitioning pacingDelay := by
  obtain ⟨index, target, hstate, htarget, rfl⟩ := h
  exact ⟨target, by simp [stage, hstate, htarget], rfl, rfl⟩

theorem Leads.stages (h : flow.Leads action led) :
    ∃ i, flow.stage = .showing i ∧
      ((led.1.stage = .transitioning (i + 1) ∧ led.2 = .transitioning pacingDelay) ∨
        (i + 1 = flow.steps.length ∧ led.1.stage = .completed ∧
          led.2 = .completed led.1.answers)) := by
  obtain ⟨index, step, answer, hstate, -, -, rfl⟩ := h
  refine ⟨index, by simp [stage, hstate], ?_⟩
  rcases (flow.keep step answer).advanceFrom_cases index with
    ⟨_, hled⟩ | ⟨hlast, hled⟩
  · rw [hled]
    exact .inl ⟨rfl, rfl⟩
  · rw [hled]
    exact .inr ⟨hlast, rfl, rfl⟩

/-- Where an input leads, and what it gives back. -/
theorem input_stages (flow : GuidedFlow) (h : action.isInput = true) :
    ∃ led : GuidedFlow × Advance, flow.perform action = (led.1, .advance led.2) ∧
      (led = (flow, .ignored) ∨
        ∃ i, flow.stage = .showing i ∧
          ((∃ j, led.1.stage = .transitioning j ∧ action.Heads i j ∧
              led.2 = .transitioning pacingDelay) ∨
            (i + 1 = flow.steps.length ∧ led.1.stage = .completed ∧
              led.2 = .completed led.1.answers))) := by
  obtain ⟨led, hperform, hled⟩ := flow.input_cases h
  refine ⟨led, hperform, ?_⟩
  rcases hled with hignored | ⟨hback, hreturns⟩ | ⟨hahead, hleads⟩
  · exact .inl hignored
  · obtain ⟨i, hstage, hnext, hadvance⟩ := hreturns.stages
    exact .inr ⟨i + 1, hstage, .inl ⟨i, hnext, by simp [Action.Heads, hback], hadvance⟩⟩
  · obtain ⟨i, hstage, ⟨hnext, hadvance⟩ | hlast⟩ := hleads.stages
    · exact .inr ⟨i, hstage, .inl ⟨i + 1, hnext, by simp [Action.Heads, hahead], hadvance⟩⟩
    · exact .inr ⟨i, hstage, .inr hlast⟩

theorem orderly (flow : GuidedFlow) : flow.Orderly flow.steps where
  in_range _ h := stage_lt h
  ignored_iff input hinput := by
    obtain ⟨led, hperform, hled⟩ := flow.input_stages hinput
    rw [hperform]
    rcases hled with rfl | ⟨i, hstage, ⟨j, hnext, -, hadvance⟩ | ⟨-, hnext, hadvance⟩⟩
    · simp
    · simp [hstage, hnext, hadvance]
    · simp [hstage, hnext, hadvance]
  transitioning_iff input hinput := by
    obtain ⟨led, hperform, hled⟩ := flow.input_stages hinput
    rw [hperform]
    rcases hled with rfl | ⟨i, hstage, ⟨j, hnext, hheads, hadvance⟩ | ⟨-, hnext, hadvance⟩⟩
    · simp +contextual
    · simp [hstage, hnext, hadvance, hheads]
    · simp [hnext, hadvance]
  completed_iff input hinput answers := by
    obtain ⟨led, hperform, hled⟩ := flow.input_stages hinput
    rw [hperform]
    rcases hled with rfl | ⟨i, hstage, ⟨j, hnext, -, hadvance⟩ | ⟨hlast, hnext, hadvance⟩⟩
    · simp +contextual
    · simp [hnext, hadvance]
    · simp [hstage, hlast, hnext, hadvance, eq_comm]
  unready hunready input hinput := by
    obtain ⟨led, hperform, rfl | ⟨i, hstage, -⟩⟩ := flow.input_stages hinput
    · rw [hperform]
    · simp [hstage] at hunready
  reveal_iff := by
    rcases flow.reveal_cases with ⟨hstate, h⟩ | ⟨target, _, hstate, -, h⟩
    · simp [h, stage_eq_transitioning_iff, hstate]
    · simp [h, stage_eq_transitioning_iff, hstate]
  revealed i hstage := by
    obtain ⟨index, hindex, rfl⟩ := stage_eq_transitioning_iff.mp hstage
    rcases flow.reveal_cases with ⟨hstate, -⟩ | ⟨target, _, hstate, -, h⟩
    · exact absurd hindex (hstate index)
    · rw [hindex] at hstate
      cases hstate
      rw [h]
      rfl

/-- **Every flow is orderly**, whatever was done to it since its start. -/
theorem orderly_run (completionMessage : String) (steps : List Step) (actions : List Action) :
    ((start completionMessage steps).run actions).1.Orderly steps := by
  have hsteps := ((start completionMessage steps).run_setup actions).1
  have horderly := ((start completionMessage steps).run actions).1.orderly
  rwa [hsteps, (start_setup completionMessage steps).1] at horderly

end GuidedChat.GuidedFlow
