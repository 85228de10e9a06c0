import GuidedChat.Proofs.Capture.Dictated
import GuidedChat.Proofs.Capture.Starting

/-! # The status line is the session's own

What was done to a capture and what it gave back tell whether it listens: a session was started and
nothing has closed it (`Since`). The batches since then tell what is shown: it is the unstable text
of the latest one that had any, unless final text came after it (`LatestUnstable`). When a session
is stopped, ends, fails or is released, the line is empty, and it stays so until the next session
has something to show (`status_run`).

Each action starts a session, closes what there is, or goes on (`starts_perform`, `closes_perform`,
`continues_perform`). While a session goes on each batch writes over the line (`Action.writes`) and
nothing else touches it. -/

namespace GuidedChat.Capture

/-- The answer tells that a session has been started. -/
def Outcome.starts : Outcome → Bool
  | .started (.ok ()) | .toggled (.ok true) => true
  | _ => false

/-- After this no session listens, whatever was before. -/
def Action.closes : Action → Outcome → Bool
  | .stop, _ | .toggle, .toggled (.ok false) | .ended, _ | .failed _, _ | .release, _ => true
  | _, _ => false

/-- A session was started in these steps and is not closed, and `after` was done since. -/
def Since (steps : List (Action × Outcome)) (after : List Action) : Prop :=
  ∃ before opening later, steps = before ++ opening :: later ∧ opening.2.starts = true ∧
    (∀ step ∈ later, step.2.starts = false ∧ step.1.closes step.2 = false) ∧
    after = later.map Prod.fst

/-- The segments of a batch that may still change; other actions bring none. -/
def Action.unstable : Action → List Segment
  | .results segments => segments.filter (!·.isFinal)
  | _ => []

def Action.Wordless (action : Action) : Prop :=
  spoken action.unstable = "" ∧ spoken action.finals = ""

/-- Among these actions there is a batch with this unstable text, and all after it are wordless. -/
def LatestUnstable (actions : List Action) (text : String) : Prop :=
  ∃ earlier batch later, actions = earlier ++ batch :: later ∧ spoken batch.unstable = text ∧
    ∀ action ∈ later, action.Wordless

/-- What a capture shows after some actions and what they gave back. -/
structure StatusLine (c : Capture) (steps : List (Action × Outcome)) : Prop where
  listens_iff : c.isListening = true ↔ ∃ after, Since steps after
  silent : c.isListening = false → c.interim = ""
  shows : ∀ after, Since steps after → ∀ text, text ≠ "" →
    (c.interim = text ↔ LatestUnstable after text)
  closed : ∀ action, action.closes (c.perform action).result.2 = true →
    (c.perform action).result.1.isListening = false ∧ (c.perform action).result.1.interim = ""
  opened : ∀ action, (c.perform action).result.2.starts = true →
    (c.perform action).result.1.isListening = true ∧ (c.perform action).result.1.interim = ""

/-! ## One action -/

/-- The line after an action of a session that listens, where `shown` is what it was before. -/
def Action.writes (action : Action) (shown : String) : String :=
  if spoken action.unstable = "" then if spoken action.finals = "" then shown else ""
  else spoken action.unstable

variable {c : Capture} {steps : List (Action × Outcome)}

theorem joined_false (segments : List Segment) :
    joined false segments = spoken (Action.results segments).unstable := by
  simp [joined, spoken, Action.unstable]

theorem interim_stop (c : Capture) : c.stop.result.1.interim = "" := by
  unfold stop
  split <;> rfl

theorem interim_onResults (c : Capture) (segments : List Segment) :
    (c.onResults segments).1.interim =
      if c.isListening = true then (Action.results segments).writes c.interim
      else if spoken (Action.results segments).finals = "" then c.interim else "" := by
  simp only [onResults, joined_false, joined_true, Action.writes, Action.finals]
  by_cases hheard : spoken (Action.results segments).unstable = "" <;>
    by_cases hfinal : spoken (segments.filter (·.isFinal)) = "" <;>
    cases c.isListening <;> simp [hheard, hfinal]

theorem starts_started_iff {result : Except CaptureError Unit} :
    (Outcome.started result).starts = true ↔ result = .ok () := by
  cases result with
  | error error => simp [Outcome.starts]
  | ok => exact ⟨fun _ => rfl, fun _ => rfl⟩

theorem starts_toggled_iff {result : Except CaptureError Unit} :
    (Outcome.toggled (result.map fun () => true)).starts = true ↔ result = .ok () := by
  cases result with
  | error error => simp [Outcome.starts, Except.map]
  | ok => exact ⟨fun _ => rfl, fun _ => rfl⟩

theorem closes_toggled (result : Except CaptureError Unit) :
    Action.toggle.closes (.toggled (result.map fun () => true)) = false := by
  cases result <;> rfl

theorem start_of_ok (h : c.start.result.2 = .ok ()) :
    c.start.result.1.isListening = true ∧ c.start.result.1.interim = "" := by
  refine ⟨(isListening_of_start h).2, ?_⟩
  rcases c.start_cases with ⟨-, hstart⟩ | ⟨-, -, hstart⟩ |
    ⟨recognizer, -, -, ⟨error, -, hstart⟩ | ⟨-, hstart⟩⟩ <;> rw [hstart] at h ⊢ <;> cases h

theorem start_of_ne_ok (h : c.start.result.2 ≠ .ok ()) :
    c.start.result.1.isListening = c.isListening ∧ c.start.result.1.interim = c.interim := by
  cases hresult : c.start.result.2 with
  | error error =>
    obtain ⟨-, hdeclines⟩ := refuses_of_start hresult
    exact ⟨hdeclines.listening, hdeclines.interim⟩
  | ok => exact absurd hresult h

theorem starts_perform {action : Action} (h : (c.perform action).result.2.starts = true) :
    (c.perform action).result.1.isListening = true ∧
      (c.perform action).result.1.interim = "" := by
  cases action with
  | start => exact start_of_ok (starts_started_iff.mp h)
  | toggle =>
    rcases c.toggle_cases with ⟨-, htoggle⟩ | ⟨-, htoggle⟩
    · rw [perform, htoggle] at h
      cases h
    · rw [perform, htoggle] at h ⊢
      exact start_of_ok (starts_toggled_iff.mp h)
  | stop | results | ended | failed | release => cases h

theorem closes_perform {action : Action}
    (h : action.closes (c.perform action).result.2 = true) :
    (c.perform action).result.1.isListening = false ∧
      (c.perform action).result.1.interim = "" := by
  cases action with
  | start | results segments => cases h
  | stop => exact ⟨c.isListening_stop, c.interim_stop⟩
  | toggle =>
    rcases c.toggle_cases with ⟨-, htoggle⟩ | ⟨-, htoggle⟩
    · rw [perform, htoggle]
      exact ⟨c.isListening_stop, c.interim_stop⟩
    · rw [perform, htoggle, closes_toggled] at h
      cases h
  | ended | failed | release => exact ⟨rfl, rfl⟩

/-- What neither starts a session nor closes one leaves the line to the batches. -/
theorem continues_perform {action : Action} (hstarts : (c.perform action).result.2.starts = false)
    (hcloses : action.closes (c.perform action).result.2 = false) :
    (c.perform action).result.1.isListening = c.isListening ∧
      (c.isListening = true →
        (c.perform action).result.1.interim = action.writes c.interim) ∧
      (c.isListening = false → c.interim = "" → (c.perform action).result.1.interim = "") := by
  rw [Bool.eq_false_iff] at hstarts
  cases action with
  | start =>
    obtain ⟨hsame, hline⟩ := start_of_ne_ok (mt starts_started_iff.mpr hstarts)
    exact ⟨hsame, fun _ => hline, fun _ hempty => hline.trans hempty⟩
  | toggle =>
    rcases c.toggle_cases with ⟨-, htoggle⟩ | ⟨-, htoggle⟩
    · rw [perform, htoggle] at hcloses
      cases hcloses
    · rw [perform, htoggle] at hstarts ⊢
      obtain ⟨hsame, hline⟩ := start_of_ne_ok (mt starts_toggled_iff.mpr hstarts)
      exact ⟨hsame, fun _ => hline, fun _ hempty => hline.trans hempty⟩
  | results segments =>
    refine ⟨rfl, fun hlistens => ?_, fun hsilent hempty => ?_⟩
    · exact (c.interim_onResults segments).trans (if_pos hlistens)
    · refine (c.interim_onResults segments).trans ?_
      rw [hsilent, hempty, if_neg Bool.false_ne_true, ite_self]
  | stop | ended | failed | release => cases hcloses

/-! ## The latest start -/

/-- An entry of a longer log is its last one, or stands where it stood before. -/
theorem concat_split {α : Type} {log before later : List α} {last entry : α}
    (h : log ++ [last] = before ++ entry :: later) :
    (later = [] ∧ entry = last) ∨
      ∃ between, later = between ++ [last] ∧ log = before ++ entry :: between := by
  rcases later.eq_nil_or_concat with rfl | ⟨between, own, rfl⟩
  · obtain ⟨-, hlast⟩ := List.append_inj' h rfl
    cases hlast
    exact .inl ⟨rfl, rfl⟩
  · rw [List.concat_eq_append, ← List.cons_append, ← List.append_assoc] at h
    obtain ⟨hlog, hlast⟩ := List.append_inj' h rfl
    cases hlast
    exact .inr ⟨between, List.concat_eq_append, hlog⟩

theorem since_of_starts {outcome : Outcome} (h : outcome.starts = true) (action : Action)
    (after : List Action) : Since (steps ++ [(action, outcome)]) after ↔ after = [] := by
  constructor
  · rintro ⟨before, opening, later, hsteps, -, hlater, rfl⟩
    rcases concat_split hsteps with ⟨rfl, -⟩ | ⟨between, rfl, -⟩
    · rfl
    · have hnone := (hlater (action, outcome) (by simp)).1
      rw [h] at hnone
      cases hnone
  · rintro rfl
    exact ⟨steps, _, [], rfl, h, by simp, rfl⟩

theorem since_concat_iff {outcome : Outcome} (h : outcome.starts = false) (action : Action)
    (after : List Action) :
    Since (steps ++ [(action, outcome)]) after ↔
      action.closes outcome = false ∧ ∃ earlier, Since steps earlier ∧
        after = earlier ++ [action] := by
  constructor
  · rintro ⟨before, opening, later, hsteps, hopening, hlater, rfl⟩
    rcases concat_split hsteps with ⟨-, rfl⟩ | ⟨between, rfl, hbefore⟩
    · rw [h] at hopening
      cases hopening
    · rw [List.forall_mem_append] at hlater
      refine ⟨(hlater.2 (action, outcome) (by simp)).2, between.map Prod.fst, ?_, by simp⟩
      exact ⟨before, opening, between, hbefore, hopening, hlater.1, rfl⟩
  · rintro ⟨hcloses, _, ⟨before, opening, later, rfl, hopening, hlater, rfl⟩, rfl⟩
    refine ⟨before, opening, later ++ [(action, outcome)], by simp, hopening, ?_, by simp⟩
    rw [List.forall_mem_append]
    exact ⟨hlater, by simpa using ⟨h, hcloses⟩⟩

/-! ## Runs -/

/-- A capture is as the steps tell, where the batches of a session write the line. -/
structure Told (c : Capture) (steps : List (Action × Outcome)) : Prop where
  listens_iff : c.isListening = true ↔ ∃ after, Since steps after
  silent : c.isListening = false → c.interim = ""
  written : ∀ after, Since steps after →
    c.interim = after.foldl (fun shown action => action.writes shown) ""

theorem Told.perform (h : Told c steps) (action : Action) :
    Told (c.perform action).result.1 (steps ++ [(action, (c.perform action).result.2)]) := by
  cases hstarts : (c.perform action).result.2.starts with
  | true =>
    obtain ⟨hlistens, hline⟩ := starts_perform hstarts
    constructor
    · simp [since_of_starts hstarts, hlistens]
    · simp [hlistens]
    · intro after hafter
      rw [(since_of_starts hstarts action after).mp hafter, hline, List.foldl_nil]
  | false =>
    cases hcloses : action.closes (c.perform action).result.2 with
    | true =>
      obtain ⟨hsilent, hline⟩ := closes_perform hcloses
      have hnone (after : List Action) :
          ¬ Since (steps ++ [(action, (c.perform action).result.2)]) after := by
        rw [since_concat_iff hstarts, hcloses]
        simp
      exact ⟨by simp [hsilent, hnone], fun _ => hline,
        fun after hafter => absurd hafter (hnone after)⟩
    | false =>
      obtain ⟨hsame, hwrites, hsilent⟩ := continues_perform hstarts hcloses
      constructor
      · rw [hsame, h.listens_iff]
        simp only [since_concat_iff hstarts, hcloses, true_and]
        exact ⟨fun ⟨after, hafter⟩ => ⟨_, after, hafter, rfl⟩,
          fun ⟨_, after, hafter, _⟩ => ⟨after, hafter⟩⟩
      · rw [hsame]
        exact fun hnot => hsilent hnot (h.silent hnot)
      · intro after hafter
        obtain ⟨-, earlier, hearlier, rfl⟩ := (since_concat_iff hstarts action after).mp hafter
        rw [hwrites (h.listens_iff.mpr ⟨earlier, hearlier⟩), h.written earlier hearlier,
          List.foldl_append, List.foldl_cons, List.foldl_nil]

theorem Told.run (h : Told c steps) (actions : List Action) :
    Told (c.run actions).result.1 (steps ++ actions.zip (c.run actions).result.2) := by
  induction actions generalizing c steps with
  | nil =>
    rw [List.zip_nil_left, List.append_nil]
    exact h
  | cons action rest ih =>
    rw [run_cons, List.zip_cons_cons, List.append_cons]
    exact ih (h.perform action)

/-! ## What the batches wrote -/

theorem Action.writes_eq_iff {text : String} (h : text ≠ "") (action : Action) (shown : String) :
    action.writes shown = text ↔
      spoken action.unstable = text ∨ (shown = text ∧ action.Wordless) := by
  unfold Action.writes Action.Wordless
  split
  · rename_i hnone
    rw [hnone]
    split <;> simp_all [Ne.symm h]
  · rename_i hsome
    simp [hsome]

theorem latestUnstable_cons_iff (action : Action) (rest : List Action) (text : String) :
    LatestUnstable (action :: rest) text ↔
      LatestUnstable rest text ∨
        (spoken action.unstable = text ∧ ∀ later ∈ rest, later.Wordless) := by
  constructor
  · rintro ⟨earlier, batch, later, hactions, htext⟩
    cases earlier with
    | nil =>
      cases hactions
      exact .inr htext
    | cons first earlier =>
      cases hactions
      exact .inl ⟨earlier, batch, later, rfl, htext⟩
  · rintro (⟨earlier, batch, later, hrest, htext⟩ | htext)
    · exact ⟨action :: earlier, batch, later, by rw [hrest]; rfl, htext⟩
    · exact ⟨[], action, rest, rfl, htext⟩

/-- A line reads as the latest batch with unstable text wrote it, or as it was at first. -/
theorem foldl_writes_eq_iff {text : String} (h : text ≠ "") (actions : List Action)
    (shown : String) :
    actions.foldl (fun shown action => action.writes shown) shown = text ↔
      LatestUnstable actions text ∨ (shown = text ∧ ∀ action ∈ actions, action.Wordless) := by
  induction actions generalizing shown with
  | nil =>
    have hnone : ¬ LatestUnstable [] text := by
      rintro ⟨earlier, batch, later, hactions, -⟩
      simp at hactions
    simp [hnone]
  | cons action rest ih =>
    rw [List.foldl_cons, ih, action.writes_eq_iff h, latestUnstable_cons_iff,
      List.forall_mem_cons, or_and_right, and_assoc, or_assoc]

/-- **The status line is the session's own**, whatever happens to a capture and whatever its
recognizer grants. -/
theorem status_run (recognizer : Option Recognizer) (config : CaptureConfig)
    (actions : List Action) :
    let past := ({ recognizer, config } : Capture).run actions
    StatusLine past.result.1 (actions.zip past.result.2) := by
  intro past
  have hfresh : Told { recognizer, config } [] := by
    have hnone (after : List Action) : ¬ Since [] after := by
      rintro ⟨before, opening, later, hsteps, -⟩
      simp at hsteps
    exact ⟨by simp [isListening, hnone], fun _ => rfl,
      fun after hafter => absurd hafter (hnone after)⟩
  have htold : Told past.result.1 (actions.zip past.result.2) := hfresh.run actions
  exact {
    listens_iff := htold.listens_iff
    silent := htold.silent
    shows := by
      intro after hafter text htext
      rw [htold.written after hafter, foldl_writes_eq_iff htext]
      simp [Ne.symm htext]
    closed := fun _ => closes_perform
    opened := fun _ => starts_perform }

/-- What a session has shown is gone with its end, and what comes late is not shown by the next. -/
theorem status_run_after_end :
    let c : Capture := { recognizer := some fun _ => .ok () }
    let heard : List Action := [.start, .results [⟨"ab", false⟩]]
    let late : List Action := heard ++ [.ended, .results [⟨"cd", false⟩]]
    (c.run heard).result.1.interim = "ab" ∧
      ((c.run heard).result.1.perform .ended).result.1.isListening = false ∧
      ((c.run heard).result.1.perform .ended).result.1.interim = "" ∧
      (c.run late).result.1.interim = "" ∧
      ((c.run late).result.1.perform .start).result.1.interim = "" := by
  intro c heard late
  have hsince : Since (heard.zip (c.run heard).result.2) [.results [⟨"ab", false⟩]] :=
    ⟨[], (.start, .started (.ok ())), [(.results [⟨"ab", false⟩], .heard none)], rfl, rfl,
      by simp [Outcome.starts, Action.closes], rfl⟩
  have hshows := (status_run c.recognizer {} heard).shows _ hsince "ab" (by decide)
  obtain ⟨hsilent, hline⟩ := (status_run c.recognizer {} heard).closed .ended rfl
  refine ⟨hshows.mpr ⟨[], _, [], rfl, rfl, by simp⟩, hsilent, hline, ?_, ?_⟩
  · exact (status_run c.recognizer {} late).silent rfl
  · exact ((status_run c.recognizer {} late).opened .start rfl).2

end GuidedChat.Capture
