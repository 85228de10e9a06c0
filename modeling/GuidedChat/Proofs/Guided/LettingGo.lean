import GuidedChat.Guided.Works
import GuidedChat.Proofs.Guided.Transcript
import Mathlib.Data.List.Sort

/-! # Letting go speaks of what was answered

The texts of two steps name an earlier answer, with words that stand in while there is none.
Nobody gets to read these words: a step is shown only after the earlier ones were answered, so
the answer is there, and it is the last one given (`mindful_run`). At the end there are two
answers, one of each step that asks, and no other. -/

namespace GuidedChat.GuidedFlow

theorem exists_stage_of_currentStep {flow : GuidedFlow} {step : Step}
    (h : flow.currentStep = some step) :
    ∃ i, flow.stage = .showing i ∧ flow.steps[i]? = some step := by
  unfold currentStep at h
  split at h
  · rename_i index hstate
    cases h
    exact ⟨index, by simp [stage, hstate], List.getElem?_eq_getElem index.isLt⟩
  · cases h

namespace LettingGo

/-- What is asked about a limit. -/
def wordsFor (limit : String) : String :=
  "「" ++ limit ++ "」を感じるとき、からだのどこに重さがありますか？"

/-- What is said of the place where it is felt. -/
def wordsAt (place : String) : String :=
  place ++ "にある重さを、映写機からそっと取り出すイメージをします。\n\n取り出せたら、タップしてください。"

/-- What letting go says of the answers accepted since the last restart, and what it returns. -/
structure Mindful (flow : GuidedFlow) (log : List (Step × String)) : Prop where
  asks_where : ∀ step, flow.currentStep = some step → step.id = "where" →
    ∃ limit, Answers.latest "limit" log = some limit ∧
      flow.transcript.getLast? = some (.assistant (wordsFor limit))
  releases : ∀ step, flow.currentStep = some step → step.id = "release" →
    ∃ place, Answers.latest "where" log = some place ∧
      flow.transcript.getLast? = some (.assistant (wordsAt place))
  completes : ∀ action answers, (flow.perform action).2 = .advance (.completed answers) →
    ∃ limit place, answers.entries = [("limit", limit), ("where", place)] ∧
      (limit ≠ "" ∧ Text.trim limit = limit) ∧ place ∈ ["胸", "お腹", "喉", "頭"] ∧
      Answers.latest "limit" (flow.noted log action) = some limit ∧
      Answers.latest "where" (flow.noted log action) = some place

variable {flow : GuidedFlow} {answers : Answers}

/-! ## The steps of letting go -/

theorem limit_of_complete {i : Nat} (h : Complete lettingGo.steps i answers) (hi : 1 < i) :
    ∃ limit, answers.get? "limit" = some limit :=
  h 1 _ "limit" hi rfl ⟨nofun, rfl⟩

theorem where_of_complete {i : Nat} (h : Complete lettingGo.steps i answers) (hi : 2 < i) :
    ∃ place, answers.get? "where" = some place :=
  h 2 _ "where" hi rfl ⟨nofun, rfl⟩

theorem map_id_steps : lettingGo.steps.map (·.id) = ["arrive", "limit", "where", "release"] := rfl

/-- The steps are told apart by their names. -/
theorem index_eq {i j : Nat} {step : Step} (h : lettingGo.steps[i]? = some step)
    (hname : (lettingGo.steps.map (·.id))[j]? = some step.id) : i = j := by
  have hi : (lettingGo.steps.map (·.id))[i]? = some step.id := by rw [List.getElem?_map, h]; rfl
  have hlt := (List.getElem?_eq_some_iff.mp hi).1
  rw [map_id_steps] at hlt hi hname
  exact (List.getElem?_inj hlt (by decide)).mp (hi.trans hname.symm)

theorem words_where {step : Step} (hstep : lettingGo.steps[2]? = some step) {limit : String}
    (hlimit : answers.get? "limit" = some limit) : step.text.render answers = wordsFor limit := by
  cases hstep
  simp [Step.select, StepText.ofParts, StepText.render, hlimit, String.join, wordsFor]

theorem words_release {step : Step} (hstep : lettingGo.steps[3]? = some step) {place : String}
    (hplace : answers.get? "where" = some place) : step.text.render answers = wordsAt place := by
  cases hstep
  simp [Step.tap, StepText.ofParts, StepText.render, hplace, String.join, wordsAt]

/-- Two steps ask for an answer, and what each admits. -/
theorem admitted_cases (h : Admitted lettingGo.steps answers) {key answer : String}
    (hmem : (key, answer) ∈ answers.entries) :
    (key = "limit" ∧ answer ≠ "" ∧ Text.trim answer = answer) ∨
      (key = "where" ∧ answer ∈ ["胸", "お腹", "喉", "頭"]) := by
  obtain ⟨step, hstep, hkey, hadmits⟩ := h key answer hmem
  simp only [lettingGo, ofSteps, start, List.mem_cons, List.not_mem_nil, or_false] at hstep
  rcases hstep with rfl | rfl | rfl | rfl
  · cases hkey
  · cases hkey
    exact .inl ⟨rfl, hadmits⟩
  · cases hkey
    exact .inr ⟨rfl, hadmits⟩
  · cases hkey

theorem admitted_both (h : Admitted lettingGo.steps answers) {limit place : String}
    (hentries : answers.entries = [("limit", limit), ("where", place)]) :
    (limit ≠ "" ∧ Text.trim limit = limit) ∧ place ∈ ["胸", "お腹", "喉", "頭"] := by
  have hlimit : ("limit", limit) ∈ answers.entries := by simp [hentries]
  have hplace : ("where", place) ∈ answers.entries := by simp [hentries]
  rcases admitted_cases h hlimit with ⟨-, hasked⟩ | ⟨hkey, -⟩
  · rcases admitted_cases h hplace with ⟨hkey, -⟩ | ⟨-, hchosen⟩
    · exact absurd hkey (by decide)
    · exact ⟨hasked, hchosen⟩
  · exact absurd hkey (by decide)

/-- Answers in order that two keys are known of, and no others. -/
theorem entries_eq (hsorted : answers.Sorted) (hadmitted : Admitted lettingGo.steps answers)
    {limit place : String} (hlimit : answers.get? "limit" = some limit)
    (hplace : answers.get? "where" = some place) :
    answers.entries = [("limit", limit), ("where", place)] := by
  have hlt : "limit" < "where" := by decide
  have hpair : [("limit", limit), ("where", place)].Pairwise fun a b => a.1 < b.1 :=
    List.pairwise_pair.mpr hlt
  have : Std.Irrefl fun a b : String × String => a.1 < b.1 := ⟨fun a => String.lt_irrefl a.1⟩
  refine List.Pairwise.eq_of_mem_iff hsorted hpair fun entry => ?_
  obtain ⟨key, answer⟩ := entry
  constructor
  · intro hmem
    have hget := (hsorted.mem_iff key answer).mp hmem
    rcases admitted_cases hadmitted hmem with ⟨rfl, -⟩ | ⟨rfl, -⟩
    · rw [hlimit] at hget
      cases hget
      exact List.mem_cons_self
    · rw [hplace] at hget
      cases hget
      exact List.mem_cons_of_mem _ List.mem_cons_self
  · intro hmem
    rw [hsorted.mem_iff]
    simp only [List.mem_cons, List.not_mem_nil, or_false, Prod.mk.injEq] at hmem
    rcases hmem with ⟨rfl, rfl⟩ | ⟨rfl, rfl⟩
    · exact hlimit
    · exact hplace

/-! ## Any history of it -/

/-- A flow on the way through letting go. -/
structure Underway (flow : GuidedFlow) (log : List (Step × String)) : Prop where
  steps_eq : flow.steps = lettingGo.steps
  sourced : flow.Sourced
  logged : flow.Logged log

variable {log : List (Step × String)}

theorem underway_start : Underway lettingGo [] :=
  ⟨rfl, sourced_start defaultCompletionMessage lettingGo.steps,
    logged_start defaultCompletionMessage lettingGo.steps⟩

namespace Underway

theorem perform (h : Underway flow log) (action : Action) :
    Underway (flow.perform action).1 (flow.noted log action) :=
  ⟨(flow.perform_setup action).1.trans h.steps_eq, h.sourced.perform action,
    h.logged.perform action⟩

theorem run (h : Underway flow log) (actions : List Action) :
    Underway (flow.run actions).1 (flow.acceptedAll log actions) :=
  ⟨(flow.run_setup actions).1.trans h.steps_eq, h.sourced.run actions, h.logged.run actions⟩

theorem complete (h : Underway flow log) :
    Complete lettingGo.steps (flow.stage.behind 4) flow.answers := by
  have hcomplete := h.sourced.1
  rw [h.steps_eq] at hcomplete
  exact hcomplete

theorem admitted (h : Underway flow log) : Admitted lettingGo.steps flow.answers := by
  have hadmitted := h.sourced.2
  rwa [h.steps_eq] at hadmitted

theorem latest_eq (h : Underway flow log) (key : String) :
    flow.answers.get? key = Answers.latest key log := by
  rw [h.logged.answers, get?_foldl_note]

theorem sorted (h : Underway flow log) : flow.answers.Sorted := by
  rw [h.logged.answers]
  exact sorted_foldl_note Answers.sorted_empty log

/-- Where a step is shown, what it asks about is answered, and its text ends the transcript. -/
theorem shows (h : Underway flow log) {step : Step} (hstep : flow.currentStep = some step) :
    ∃ i, lettingGo.steps[i]? = some step ∧ Complete lettingGo.steps i flow.answers ∧
      flow.transcript.getLast? = some (.assistant (step.text.render flow.answers)) := by
  obtain ⟨i, hstage, hi⟩ := exists_stage_of_currentStep hstep
  have hcomplete := h.complete
  rw [hstage] at hcomplete
  refine ⟨i, ?_, hcomplete, h.logged.shown _ ?_⟩
  · rw [← h.steps_eq]
    exact hi
  · rw [currentText, hstep]
    rfl

end Underway

/-- **Letting go speaks of what was answered**, whatever was done to it since its start. -/
theorem mindful_run (actions : List Action) :
    Mindful (lettingGo.run actions).1 (lettingGo.acceptedAll [] actions) := by
  have hunderway := underway_start.run actions
  generalize (lettingGo.run actions).1 = flow at *
  generalize lettingGo.acceptedAll [] actions = log at *
  constructor
  · intro step hstep hid
    obtain ⟨i, hi, hcomplete, hlast⟩ := hunderway.shows hstep
    obtain rfl : i = 2 := index_eq hi (by rw [hid]; rfl)
    obtain ⟨limit, hlimit⟩ := limit_of_complete hcomplete (by decide)
    rw [words_where hi hlimit] at hlast
    exact ⟨limit, (hunderway.latest_eq "limit").symm.trans hlimit, hlast⟩
  · intro step hstep hid
    obtain ⟨i, hi, hcomplete, hlast⟩ := hunderway.shows hstep
    obtain rfl : i = 3 := index_eq hi (by rw [hid]; rfl)
    obtain ⟨place, hplace⟩ := where_of_complete hcomplete (by decide)
    rw [words_release hi hplace] at hlast
    exact ⟨place, (hunderway.latest_eq "where").symm.trans hplace, hlast⟩
  · intro action answers hadvance
    obtain ⟨hstage, rfl⟩ := completed_of_advance hadvance
    have hnext := hunderway.perform action
    have hcomplete := hnext.complete
    rw [hstage] at hcomplete
    obtain ⟨limit, hlimit⟩ := limit_of_complete hcomplete (by decide)
    obtain ⟨place, hplace⟩ := where_of_complete hcomplete (by decide)
    have hentries := entries_eq hnext.sorted hnext.admitted hlimit hplace
    obtain ⟨hasked, hchosen⟩ := admitted_both hnext.admitted hentries
    exact ⟨limit, place, hentries, hasked, hchosen, (hnext.latest_eq "limit").symm.trans hlimit,
      (hnext.latest_eq "where").symm.trans hplace⟩

end LettingGo

end GuidedChat.GuidedFlow
