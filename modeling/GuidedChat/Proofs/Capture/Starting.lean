import GuidedChat.Proofs.Capture.Steps

/-! # Sessions that are refused

A session is refused for one of three reasons, which are looked at in this order: there is one
already, there is no recognizer, or the recognizer declines the attempt (`Refuses`). A refusal
leaves all that can be seen of a capture as it was, and only the third reason costs an attempt
(`Declines`). Whoever toggles is told whether the capture listens then. This holds after every
history, in which the attempts are numbered as they were made (`truthful_run`). -/

namespace GuidedChat

def RecognizerCall.isOpening : RecognizerCall → Bool
  | opening _ _ => true
  | stop _ | abort _ => false

namespace Capture

/-- Why a session is refused. -/
inductive Refuses (c : Capture) : CaptureError → Prop
  | held (h : c.isListening = true ∨ c.isStopping = true) : Refuses c .alreadyActive
  | unsupported (hfree : c.held = []) (h : c.isSupported = false) : Refuses c .unsupported
  | declined {recognizer : Recognizer} {error : CaptureError} (hfree : c.held = [])
      (hrecognizer : c.recognizer = some recognizer) (h : recognizer c.attempts = .error error) :
    Refuses c error

/-- What an effect comes to that gives an error. -/
structure Declines {α : Type} (c : Capture) (effect : Effect (Except CaptureError α)) : Prop where
  listening : effect.result.1.isListening = c.isListening
  stopping : effect.result.1.isStopping = c.isStopping
  interim : effect.result.1.interim = c.interim
  calls : effect.calls =
    if c.isSupported = true ∧ c.held = [] then [.opening c.attempts c.config] else []

/-- How a capture answers to being started and toggled. -/
structure Truthful (c : Capture) : Prop where
  start_iff : ∀ error, c.start.result.2 = .error error ↔ c.Refuses error
  toggle_iff : ∀ error, c.toggle.result.2 = .error error ↔
    c.isListening = false ∧ c.Refuses error
  start_declines : ∀ error, c.start.result.2 = .error error → c.Declines c.start
  toggle_declines : ∀ error, c.toggle.result.2 = .error error → c.Declines c.toggle
  toggle_tells : ∀ listens, c.toggle.result.2 = .ok listens →
    listens = c.toggle.result.1.isListening ∧ listens ≠ c.isListening

variable (c : Capture)

theorem isListening_stop : c.stop.result.1.isListening = false := by
  rw [isListening, active_stop]
  rfl

theorem isListening_eq_false_of_free (h : c.held = []) : c.isListening = false := by
  rw [isListening, (c.held_eq_nil_iff.mp h).1]
  rfl

variable {c} {error : CaptureError}

theorem Refuses.start_eq (h : c.Refuses error) : c.start.result.2 = .error error := by
  have hfree : c.held = [] → ¬ (c.isListening || c.isStopping) = true := by
    intro hnil hheld
    exact c.held_ne_nil_iff.mpr (by simpa using hheld) hnil
  cases h with
  | held h => rw [start, if_pos (by simpa using h)]
  | unsupported hnil h =>
    have hnone : c.recognizer = none := by simpa [isSupported] using h
    rw [start, if_neg (hfree hnil), hnone]
  | declined hnil hsome h =>
    rw [start, if_neg (hfree hnil), hsome]
    simp [h]

/-- A start that gives an error had a reason to, and comes to nothing else. -/
theorem refuses_of_start (h : c.start.result.2 = .error error) :
    c.Refuses error ∧ c.Declines c.start := by
  rcases c.start_cases with ⟨hheld, hstart⟩ | ⟨hfree, hnone, hstart⟩ |
    ⟨recognizer, hfree, hsome, ⟨own, hown, hstart⟩ | ⟨-, hstart⟩⟩ <;>
    rw [hstart] at h ⊢ <;> cases h
  · exact ⟨.held (c.held_ne_nil_iff.mp hheld), rfl, rfl, rfl, by simp [hheld]⟩
  · have hunsupported : c.isSupported = false := by rw [isSupported, hnone]; rfl
    exact ⟨.unsupported hfree hunsupported, rfl, rfl, rfl, by simp [hunsupported]⟩
  · have hsupported : c.isSupported = true := by rw [isSupported, hsome]; rfl
    exact ⟨.declined hfree hsome hown, rfl, rfl, rfl, by simp [hsupported, hfree]⟩

theorem isListening_of_start (h : c.start.result.2 = .ok ()) :
    c.isListening = false ∧ c.start.result.1.isListening = true := by
  rcases c.start_cases with ⟨-, hstart⟩ | ⟨-, -, hstart⟩ |
    ⟨recognizer, hfree, -, ⟨own, -, hstart⟩ | ⟨-, hstart⟩⟩ <;>
    rw [hstart] at h ⊢ <;> cases h
  exact ⟨c.isListening_eq_false_of_free hfree, rfl⟩

theorem toggle_eq_error_iff :
    c.toggle.result.2 = .error error ↔
      c.isListening = false ∧ c.start.result.2 = .error error := by
  rcases c.toggle_cases with ⟨hlistens, htoggle⟩ | ⟨hsilent, htoggle⟩
  · simp [htoggle, hlistens]
  · rw [htoggle]
    cases h : c.start.result.2 <;> simp [hsilent, Except.map]

theorem toggle_eq_start (h : c.isListening = false) :
    c.toggle.calls = c.start.calls ∧ c.toggle.result.1 = c.start.result.1 := by
  rcases c.toggle_cases with ⟨hlistens, -⟩ | ⟨-, htoggle⟩
  · rw [h] at hlistens
    cases hlistens
  · rw [htoggle]
    exact ⟨rfl, rfl⟩

theorem Declines.toggle (hsilent : c.isListening = false) (h : c.Declines c.start) :
    c.Declines c.toggle := by
  obtain ⟨hcalls, hstate⟩ := toggle_eq_start hsilent
  constructor
  · rw [hstate]
    exact h.listening
  · rw [hstate]
    exact h.stopping
  · rw [hstate]
    exact h.interim
  · rw [hcalls]
    exact h.calls

theorem toggle_tells {listens : Bool} (h : c.toggle.result.2 = .ok listens) :
    listens = c.toggle.result.1.isListening ∧ listens ≠ c.isListening := by
  rcases c.toggle_cases with ⟨hlistens, htoggle⟩ | ⟨hsilent, htoggle⟩
  · rw [htoggle] at h ⊢
    cases h
    rw [hlistens]
    exact ⟨c.isListening_stop.symm, Bool.false_ne_true⟩
  · rw [htoggle] at h ⊢
    cases hstart : c.start.result.2 with
    | error error =>
      rw [hstart] at h
      cases h
    | ok =>
      rw [hstart] at h
      cases h
      rw [hsilent]
      exact ⟨(isListening_of_start hstart).2.symm, Bool.false_ne_true.symm⟩

theorem truthful (c : Capture) : c.Truthful where
  start_iff error := ⟨fun h => (refuses_of_start h).1, Refuses.start_eq⟩
  toggle_iff error := by
    rw [toggle_eq_error_iff]
    exact and_congr_right fun _ => ⟨fun h => (refuses_of_start h).1, Refuses.start_eq⟩
  start_declines error h := (refuses_of_start h).2
  toggle_declines error h := by
    obtain ⟨hsilent, hstart⟩ := toggle_eq_error_iff.mp h
    exact (refuses_of_start hstart).2.toggle hsilent
  toggle_tells _ := toggle_tells

/-! ## After any history -/

theorem Does.attempts_eq {reports : Bool} {next : Capture} {calls : List RecognizerCall}
    (h : Does c reports next calls) :
    next.attempts = c.attempts + calls.countP RecognizerCall.isOpening := by
  cases h with
  | nothing | ended | opened | refused | stopped => rfl
  | aborted =>
    have hnone : (c.held.map RecognizerCall.abort).countP RecognizerCall.isOpening = 0 := by
      simp [List.countP_eq_zero, RecognizerCall.isOpening]
    rw [hnone]
    rfl

theorem run_setup (c : Capture) (actions : List Action) :
    (c.run actions).result.1.recognizer = c.recognizer ∧
      (c.run actions).result.1.config = c.config ∧
      (c.run actions).result.1.attempts =
        c.attempts + (c.run actions).calls.countP RecognizerCall.isOpening := by
  induction actions generalizing c with
  | nil => exact ⟨rfl, rfl, rfl⟩
  | cons action rest ih =>
    have hdoes := c.does_perform action
    obtain ⟨hrecognizer, hconfig, hattempts⟩ := ih (c.perform action).result.1
    rw [run_cons]
    refine ⟨hrecognizer.trans hdoes.recognizer_eq, hconfig.trans hdoes.config_eq, ?_⟩
    rw [hattempts, hdoes.attempts_eq, List.countP_append, Nat.add_assoc]

/-- **Whoever starts or toggles a capture is told the truth**, after any history and whatever the
recognizer grants, and a refusal changes nothing that can be seen. -/
theorem truthful_run (recognizer : Option Recognizer) (config : CaptureConfig)
    (actions : List Action) :
    let past := ({ recognizer, config } : Capture).run actions
    past.result.1.recognizer = recognizer ∧ past.result.1.config = config ∧
      past.result.1.attempts = past.calls.countP RecognizerCall.isOpening ∧
      past.result.1.Truthful := by
  intro past
  obtain ⟨hrecognizer, hconfig, hattempts⟩ := run_setup { recognizer, config } actions
  exact ⟨hrecognizer, hconfig, hattempts.trans (Nat.zero_add _), truthful _⟩

end Capture

end GuidedChat
