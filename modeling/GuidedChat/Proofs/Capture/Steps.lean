import GuidedChat.Capture.History

/-! # What one action does to the session of a capture

Of all that can happen to a capture, little concerns its session: an attempt to open one while
there is none, which is granted or refused, a stop, an abort, and an end that the recognizer
reports (`does_perform`). Whatever happens leaves the recognizer and the configuration. -/

namespace GuidedChat

/-- The session that a call is about; an attempt is about the session it may open. -/
def RecognizerCall.session : RecognizerCall → Nat
  | opening attempt _ => attempt
  | stop session | abort session => session

namespace Capture

/-- The recognizer tells of the end of its session. -/
def Action.reportsEnd : Action → Bool
  | .ended | .failed _ => true
  | .start | .stop | .toggle | .results _ | .release => false

/-- What an action can do to a capture, with the calls it makes, where it may be a report of an
end. -/
inductive Does (c : Capture) : Bool → Capture → List RecognizerCall → Prop
  | nothing (reports : Bool) (interim : String) (h : reports = true → c.held = []) :
    Does c reports { c with interim } []
  | ended (h : c.held ≠ []) : Does c true c.onEnd []
  | opened {recognizer : Recognizer} (hidle : c.held = [])
      (hrecognizer : c.recognizer = some recognizer) (h : recognizer c.attempts = .ok ()) :
    Does c false
      { c with attempts := c.attempts + 1, active := some c.attempts, interim := "" }
      [.opening c.attempts c.config]
  | refused {recognizer : Recognizer} {error : CaptureError} (hidle : c.held = [])
      (hrecognizer : c.recognizer = some recognizer) (h : recognizer c.attempts = .error error) :
    Does c false { c with attempts := c.attempts + 1 } [.opening c.attempts c.config]
  | stopped {session : Nat} (h : c.active = some session) :
    Does c false { c with active := none, stopping := some session, interim := "" }
      [.stop session]
  | aborted (h : c.held ≠ []) : Does c false c.onEnd (c.held.map .abort)

variable (c : Capture)

@[simp]
theorem mem_held (n : Nat) : n ∈ c.held ↔ c.active = some n ∨ c.stopping = some n := by
  simp [held]

theorem held_eq_nil_iff : c.held = [] ↔ c.active = none ∧ c.stopping = none := by
  simp [held]

theorem held_eq_nil_of_idle (h : ¬ (c.isListening || c.isStopping) = true) : c.held = [] := by
  simpa [held_eq_nil_iff, isListening, isStopping] using h

theorem held_ne_nil_iff : c.held ≠ [] ↔ c.isListening = true ∨ c.isStopping = true := by
  rw [ne_eq, held_eq_nil_iff, isListening, isStopping]
  cases c.active <;> simp [Option.isSome_iff_ne_none]

/-- All that starting can come to. -/
theorem start_cases :
    (c.held ≠ [] ∧ c.start = ⟨[], c, .error .alreadyActive⟩) ∨
    (c.held = [] ∧ c.recognizer = none ∧ c.start = ⟨[], c, .error .unsupported⟩) ∨
    ∃ recognizer, c.held = [] ∧ c.recognizer = some recognizer ∧
      ((∃ error, recognizer c.attempts = .error error ∧
          c.start = ⟨[.opening c.attempts c.config],
            { c with attempts := c.attempts + 1 }, .error error⟩) ∨
        (recognizer c.attempts = .ok () ∧
          c.start = ⟨[.opening c.attempts c.config],
            { c with attempts := c.attempts + 1, active := some c.attempts, interim := "" },
            .ok ()⟩)) := by
  unfold start
  split
  · rename_i hheld
    exact .inl ⟨c.held_ne_nil_iff.mpr (by simpa using hheld), rfl⟩
  · rename_i hidle
    have hidle := c.held_eq_nil_of_idle hidle
    split
    · rename_i hnone
      exact .inr (.inl ⟨hidle, hnone, rfl⟩)
    · rename_i recognizer hsome
      refine .inr (.inr ⟨recognizer, hidle, hsome, ?_⟩)
      cases h : recognizer c.attempts with
      | error error => exact .inl ⟨error, rfl, rfl⟩
      | ok => exact .inr ⟨rfl, rfl⟩

/-- Where a session listens, toggling stops it; else it starts one. -/
theorem toggle_cases :
    (c.isListening = true ∧ c.toggle = ⟨c.stop.calls, c.stop.result.1, .ok false⟩) ∨
    (c.isListening = false ∧
      c.toggle = ⟨c.start.calls, c.start.result.1, c.start.result.2.map fun () => true⟩) := by
  unfold toggle
  cases h : c.isListening with
  | true => exact .inl ⟨rfl, rfl⟩
  | false => exact .inr ⟨rfl, rfl⟩

theorem does_start : Does c false c.start.result.1 c.start.calls := by
  rcases c.start_cases with ⟨-, h⟩ | ⟨-, -, h⟩ |
    ⟨recognizer, hidle, hrecognizer, ⟨error, hrefused, h⟩ | ⟨hgranted, h⟩⟩ <;> rw [h]
  · exact .nothing false c.interim (by simp)
  · exact .nothing false c.interim (by simp)
  · exact .refused hidle hrecognizer hrefused
  · exact .opened hidle hrecognizer hgranted

theorem active_stop : c.stop.result.1.active = none := by
  unfold stop
  split
  · rfl
  · assumption

theorem does_stop : Does c false c.stop.result.1 c.stop.calls := by
  unfold stop
  split
  · rename_i session h
    exact .stopped h
  · exact .nothing false "" (by simp)

theorem does_toggle : Does c false c.toggle.result.1 c.toggle.calls := by
  rcases c.toggle_cases with ⟨-, h⟩ | ⟨-, h⟩ <;> rw [h]
  · exact c.does_stop
  · exact c.does_start

/-- Without a session, its end is no event. -/
theorem onEnd_eq (h : c.held = []) : c.onEnd = { c with interim := "" } := by
  obtain ⟨hactive, hstopping⟩ := c.held_eq_nil_iff.mp h
  rw [onEnd, hactive, hstopping]

theorem does_onEnd : Does c true c.onEnd [] := by
  by_cases h : c.held = []
  · rw [c.onEnd_eq h]
    exact .nothing true "" fun _ => h
  · exact .ended h

theorem does_release : Does c false c.release.result.1 c.release.calls := by
  unfold release
  by_cases h : c.held = []
  · rw [c.onEnd_eq h, h]
    exact .nothing false "" (by simp)
  · exact .aborted h

theorem does_perform (action : Action) :
    Does c action.reportsEnd (c.perform action).result.1 (c.perform action).calls := by
  cases action with
  | start => exact c.does_start
  | stop => exact c.does_stop
  | toggle => exact c.does_toggle
  | results segments => exact .nothing false (c.onResults segments).1.interim (by simp)
  | ended => exact c.does_onEnd
  | failed code => exact c.does_onEnd
  | release => exact c.does_release

variable {c}

/-- Nothing that happens changes the recognizer. -/
theorem Does.recognizer_eq {reports : Bool} {next : Capture} {calls : List RecognizerCall}
    (h : Does c reports next calls) : next.recognizer = c.recognizer := by
  cases h <;> rfl

theorem Does.config_eq {reports : Bool} {next : Capture} {calls : List RecognizerCall}
    (h : Does c reports next calls) : next.config = c.config := by
  cases h <;> rfl

end Capture

end GuidedChat
