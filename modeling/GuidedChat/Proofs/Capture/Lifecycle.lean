import GuidedChat.Proofs.Capture.Steps

/-! # The life of a recognizer session

Whatever happens to a capture until it is dropped, what each session goes through is a `Course`:
it is opened, perhaps stopped, and then either aborted or reported as ended, and after that no
call is about it (`course_allCalls`). This rests on one invariant (`WellFormed`): were a session
stopping beside one that listens, stopping that one too would put the first out of sight. From the
courses follows what the recognizer can count on (`lifecycle_run`): no session is opened beside
another or left behind, none is stopped or aborted twice, and none is called after its end. -/

namespace GuidedChat.Capture

def allCalls (c : Capture) (actions : List Action) : List RecognizerCall :=
  (c.run actions).calls ++ (c.run actions).result.1.drop

/-- The end of a session is reported in a run while the capture has it. -/
def reported (c : Capture) (session : Nat) : List Action → Bool
  | [] => false
  | action :: rest =>
    (action.reportsEnd && session ∈ c.held) ||
      (c.perform action).result.1.reported session rest

/-- The recognizer lets this attempt open a session. -/
def Grants (c : Capture) (attempt : Nat) : Prop :=
  ∃ recognizer, c.recognizer = some recognizer ∧ recognizer attempt = .ok ()

/-- The calls have opened this session. -/
def Opened (c : Capture) (calls : List RecognizerCall) (session : Nat) : Prop :=
  c.Grants session ∧ ∃ config, .opening session config ∈ calls

/-- What holds of a capture and the calls to its recognizer after some actions, and if it is
dropped then. -/
structure Lifecycle (c : Capture) (actions : List Action) : Prop where
  exclusive : ¬ ((c.run actions).result.1.isListening = true ∧
    (c.run actions).result.1.isStopping = true)
  at_most_one : (c.run actions).result.1.held.length ≤ 1
  held_iff : ∀ session, session ∈ (c.run actions).result.1.held ↔
    c.Opened (c.run actions).calls session ∧ c.reported session actions = false ∧
      .abort session ∉ (c.run actions).calls
  opens_alone : ∀ session ∈ (c.run actions).result.1.held, ∀ action attempt config,
    .opening attempt config ∉ ((c.run actions).result.1.perform action).calls
  stopped_once : ∀ session, (c.allCalls actions).count (.stop session) ≤ 1
  aborted_once : ∀ session, (c.allCalls actions).count (.abort session) ≤ 1
  stopped_first : ∀ session, ¬ [.abort session, .stop session].Sublist (c.allCalls actions)
  silent_after_end : ∀ before report after session, actions = before ++ report :: after →
    report.reportsEnd = true → session ∈ (c.run before).result.1.held →
      ∀ call ∈ (c.run before).result.1.allCalls (report :: after), call.session ≠ session
  settled : ∀ session, c.Opened (c.allCalls actions) session →
    (c.allCalls actions).count (.abort session) = if c.reported session actions then 0 else 1

/-! ## Courses -/

inductive Standing
  | unborn
  | listening
  | stopping
  | closed
  deriving DecidableEq, Repr

def standing (c : Capture) (session : Nat) : Standing :=
  if c.active = some session then .listening
  else if c.stopping = some session then .stopping
  else if session < c.attempts then .closed
  else .unborn

/-- What can still happen to a session from a standing on: the calls about it, and whether its
end is reported. -/
inductive Course (granted : Prop) (session : Nat) : Standing → List RecognizerCall → Bool → Prop
  | closed : Course granted session .closed [] false
  | unborn : Course granted session .unborn [] false
  | refused (config : CaptureConfig) (h : ¬ granted) :
    Course granted session .unborn [.opening session config] false
  | opened (config : CaptureConfig) (h : granted) {calls : List RecognizerCall} {reported : Bool}
      (rest : Course granted session .listening calls reported) :
    Course granted session .unborn (.opening session config :: calls) reported
  | stopped {calls : List RecognizerCall} {reported : Bool}
      (rest : Course granted session .stopping calls reported) :
    Course granted session .listening (.stop session :: calls) reported
  | aborted {standing : Standing} (h : standing = .listening ∨ standing = .stopping) :
    Course granted session standing [.abort session] false
  | ended {standing : Standing} (h : standing = .listening ∨ standing = .stopping) :
    Course granted session standing [] true

/-- No session is stopping beside one that listens, and sessions are numbered by the attempts that
opened them. -/
structure WellFormed (c : Capture) : Prop where
  exclusive : c.active = none ∨ c.stopping = none
  numbered : ∀ session ∈ c.held, session < c.attempts

variable {c next : Capture} {reports : Bool} {calls : List RecognizerCall} {n : Nat}

theorem WellFormed.held_eq (hc : c.WellFormed) (h : n ∈ c.held) : c.held = [n] := by
  rw [mem_held] at h
  rcases hc.exclusive with hnone | hnone <;> simp_all [held]

theorem WellFormed.length_held (hc : c.WellFormed) : c.held.length ≤ 1 := by
  rcases hc.exclusive with hnone | hnone
  · cases h : c.stopping <;> simp [held, hnone, h]
  · cases h : c.active <;> simp [held, hnone, h]

theorem standing_of_held (h : n ∈ c.held) :
    c.standing n = .listening ∨ c.standing n = .stopping := by
  unfold standing
  by_cases hactive : c.active = some n
  · exact .inl (if_pos hactive)
  · have hstopping := (c.mem_held n).mp h |>.resolve_left hactive
    rw [if_neg hactive, if_pos hstopping]
    exact .inr rfl

theorem standing_of_not_held (h : n ∉ c.held) :
    c.standing n = if n < c.attempts then .closed else .unborn := by
  rw [mem_held, not_or] at h
  rw [standing, if_neg h.1, if_neg h.2]

theorem standing_of_closed (h : n ∉ c.held) (hlt : n < c.attempts) : c.standing n = .closed := by
  rw [standing_of_not_held h, if_pos hlt]

theorem standing_of_unborn (h : n ∉ c.held) (hle : c.attempts ≤ n) : c.standing n = .unborn := by
  rw [standing_of_not_held h, if_neg (by omega)]

theorem held_onEnd (c : Capture) : c.onEnd.held = [] := rfl

theorem WellFormed.filter_abort (hc : c.WellFormed) (h : n ∈ c.held) :
    (c.held.map RecognizerCall.abort).filter (·.session = n) = [.abort n] := by
  rw [hc.held_eq h]
  simp [RecognizerCall.session]

theorem Does.standing_eq (h : Does c reports next calls) (hheld : n ∉ c.held)
    (hcalls : ∀ call ∈ calls, call.session ≠ n) : next.standing n = c.standing n := by
  have later {attempts : Nat} (h : attempts ≠ n) : n < attempts + 1 ↔ n < attempts := by omega
  rw [standing_of_not_held hheld]
  rw [mem_held, not_or] at hheld
  cases h with
  | nothing => exact standing_of_not_held (by simpa using hheld)
  | ended | aborted => exact standing_of_not_held (by simp [held_onEnd])
  | opened =>
    have hattempt : c.attempts ≠ n := by simpa [RecognizerCall.session] using hcalls
    rw [standing_of_not_held (by simpa using ⟨hattempt, hheld.2⟩)]
    simp only [later hattempt]
  | refused =>
    have hattempt : c.attempts ≠ n := by simpa [RecognizerCall.session] using hcalls
    rw [standing_of_not_held (by simpa using hheld)]
    simp only [later hattempt]
  | @stopped session =>
    have hsession : session ≠ n := by simpa [RecognizerCall.session] using hcalls
    exact standing_of_not_held (by simpa using hsession)

theorem Course.of_closed {granted : Prop} {ended : Bool}
    (h : Course granted n .closed calls ended) : calls = [] ∧ ended = false := by
  cases h with
  | closed => exact ⟨rfl, rfl⟩
  | aborted h | ended h => simp at h

/-- What is done to a capture with a session leads along the course of that session. -/
theorem Does.course_held (h : Does c reports next calls) (hc : c.WellFormed) (hheld : n ∈ c.held)
    {later : List RecognizerCall} {ended : Bool}
    (hlater : Course (c.Grants n) n (next.standing n) later ended) :
    Course (c.Grants n) n (c.standing n) (calls.filter (·.session = n) ++ later)
      (reports || ended) := by
  have hstanding := standing_of_held hheld
  have hclosed : c.onEnd.standing n = .closed :=
    standing_of_closed (by simp [held_onEnd]) (hc.numbered n hheld)
  cases h with
  | nothing reports interim hreports =>
    cases reports with
    | false => exact hlater
    | true => simp [hreports rfl] at hheld
  | ended =>
    rw [hclosed] at hlater
    obtain ⟨rfl, rfl⟩ := hlater.of_closed
    exact .ended hstanding
  | opened hidle | refused hidle => simp [hidle] at hheld
  | @stopped session hsession =>
    obtain rfl : session = n := by
      have hmem : session ∈ c.held := (c.mem_held session).mpr (.inl hsession)
      simpa [hc.held_eq hheld] using hmem
    have hlistening : c.standing session = .listening := by simp [standing, hsession]
    have hcall : [RecognizerCall.stop session].filter (·.session = session) = [.stop session] := by
      simp [RecognizerCall.session]
    rw [hlistening, hcall]
    refine .stopped ?_
    simpa [standing] using hlater
  | aborted =>
    rw [hclosed] at hlater
    obtain ⟨rfl, rfl⟩ := hlater.of_closed
    rw [hc.filter_abort hheld]
    exact .aborted hstanding

/-- A call about another session than the one there is opens that session, or attempts to. -/
theorem Does.course_opening (h : Does c reports next calls) (hheld : n ∉ c.held)
    (hcall : ∃ call ∈ calls, call.session = n) {later : List RecognizerCall} {ended : Bool}
    (hlater : Course (c.Grants n) n (next.standing n) later ended) :
    Course (c.Grants n) n (c.standing n) (calls.filter (·.session = n) ++ later) ended := by
  cases h with
  | nothing | ended => simp at hcall
  | stopped hsession =>
    simp only [List.mem_singleton, exists_eq_left, RecognizerCall.session] at hcall
    exact absurd ((c.mem_held n).mpr (.inl (hcall ▸ hsession))) hheld
  | aborted =>
    obtain ⟨_, hmem, rfl⟩ := hcall
    obtain ⟨session, hsession, rfl⟩ := List.mem_map.mp hmem
    exact absurd hsession hheld
  | @opened recognizer hidle hrecognizer hgranted =>
    obtain rfl : c.attempts = n := by simpa [RecognizerCall.session] using hcall
    rw [standing_of_unborn hheld (Nat.le_refl _)]
    simpa [RecognizerCall.session] using
      Course.opened c.config ⟨recognizer, hrecognizer, hgranted⟩ (by simpa [standing] using hlater)
  | @refused recognizer error hidle hrecognizer herror =>
    obtain rfl : c.attempts = n := by simpa [RecognizerCall.session] using hcall
    have hrefused : ¬ c.Grants c.attempts := by
      rintro ⟨recognizer', hrecognizer', hgranted⟩
      rw [hrecognizer] at hrecognizer'
      cases hrecognizer'
      rw [herror] at hgranted
      cases hgranted
    rw [standing_of_closed (by simpa using hheld) (Nat.lt_succ_self _)] at hlater
    obtain ⟨rfl, rfl⟩ := hlater.of_closed
    rw [standing_of_unborn hheld (Nat.le_refl _)]
    simpa [RecognizerCall.session] using Course.refused c.config hrefused

/-- Whatever is done leads along every course. -/
theorem Does.course (h : Does c reports next calls) (hc : c.WellFormed)
    {later : List RecognizerCall} {ended : Bool}
    (hlater : Course (c.Grants n) n (next.standing n) later ended) :
    Course (c.Grants n) n (c.standing n) (calls.filter (·.session = n) ++ later)
      ((reports && n ∈ c.held) || ended) := by
  by_cases hheld : n ∈ c.held
  · rw [decide_eq_true hheld, Bool.and_true]
    exact h.course_held hc hheld hlater
  · rw [decide_eq_false hheld, Bool.and_false, Bool.false_or]
    by_cases hcalls : ∀ call ∈ calls, call.session ≠ n
    · have hfilter : calls.filter (·.session = n) = [] := by simpa using hcalls
      rw [← h.standing_eq hheld hcalls, hfilter]
      exact hlater
    · have hcall : ∃ call ∈ calls, call.session = n := by simpa using hcalls
      exact h.course_opening hheld hcall hlater

theorem Does.wellFormed (h : Does c reports next calls) (hc : c.WellFormed) :
    next.WellFormed := by
  cases h with
  | nothing => exact ⟨hc.exclusive, hc.numbered⟩
  | ended | aborted => exact ⟨.inl rfl, by simp [held_onEnd]⟩
  | opened hidle =>
    have hstopping := (c.held_eq_nil_iff.mp hidle).2
    exact ⟨.inr hstopping, by simp [hstopping]⟩
  | refused => exact ⟨hc.exclusive, fun n hn => Nat.lt_succ_of_lt (hc.numbered n hn)⟩
  | @stopped session hsession =>
    refine ⟨.inl rfl, ?_⟩
    simpa using hc.numbered session ((c.mem_held session).mpr (.inl hsession))

/-! ## Runs -/

theorem allCalls_cons (c : Capture) (action : Action) (rest : List Action) :
    c.allCalls (action :: rest) =
      (c.perform action).calls ++ (c.perform action).result.1.allCalls rest := by
  rw [allCalls, run_cons, List.append_assoc, allCalls]

theorem grants_perform (c : Capture) (action : Action) (n : Nat) :
    (c.perform action).result.1.Grants n ↔ c.Grants n := by
  rw [Grants, (c.does_perform action).recognizer_eq, Grants]

theorem wellFormed_run (hc : c.WellFormed) (actions : List Action) :
    (c.run actions).result.1.WellFormed := by
  induction actions generalizing c with
  | nil => exact hc
  | cons action rest ih => exact ih ((c.does_perform action).wellFormed hc)

/-- When a capture is dropped, every course is at its end. -/
theorem course_drop (hc : c.WellFormed) (n : Nat) :
    Course (c.Grants n) n (c.standing n) (c.drop.filter (·.session = n)) false := by
  unfold drop release
  by_cases hheld : n ∈ c.held
  · rw [hc.filter_abort hheld]
    exact .aborted (standing_of_held hheld)
  · have hfilter : (c.held.map RecognizerCall.abort).filter (·.session = n) = [] := by
      rw [List.filter_eq_nil_iff]
      rintro _ hcall habout
      obtain ⟨session, hsession, rfl⟩ := List.mem_map.mp hcall
      obtain rfl : session = n := of_decide_eq_true habout
      exact hheld hsession
    rw [hfilter, standing_of_not_held hheld]
    split
    · exact .closed
    · exact .unborn

/-- What each session goes through until the capture is dropped is a course. -/
theorem course_allCalls (hc : c.WellFormed) (actions : List Action) (n : Nat) :
    Course (c.Grants n) n (c.standing n) ((c.allCalls actions).filter (·.session = n))
      (c.reported n actions) := by
  induction actions generalizing c with
  | nil => exact course_drop hc n
  | cons action rest ih =>
    have hdoes := c.does_perform action
    have hlater := ih (hdoes.wellFormed hc)
    rw [grants_perform] at hlater
    rw [allCalls_cons, List.filter_append]
    exact hdoes.course hc hlater

/-! ## What the courses tell -/

/-- The calls about a session from its first attempt to the end. -/
theorem Course.calls_eq {granted : Prop} {ended : Bool}
    (h : Course granted n .unborn calls ended) :
    (calls = [] ∧ ended = false) ∨
    ∃ config, (¬ granted ∧ calls = [.opening n config] ∧ ended = false) ∨
      (granted ∧ ∃ stops, (stops = [] ∨ stops = [.stop n]) ∧
        calls = .opening n config :: (stops ++ if ended then [] else [.abort n])) := by
  have ending {calls : List RecognizerCall} {ended : Bool}
      (h : Course granted n .stopping calls ended) :
      calls = if ended then [] else [.abort n] := by
    cases h <;> rfl
  cases h with
  | unborn => exact .inl ⟨rfl, rfl⟩
  | refused config h => exact .inr ⟨config, .inl ⟨h, rfl, rfl⟩⟩
  | aborted h | ended h => simp at h
  | opened config h rest =>
    refine .inr ⟨config, .inr ⟨h, ?_⟩⟩
    cases rest with
    | stopped rest => exact ⟨[.stop n], .inr rfl, by rw [ending rest]; rfl⟩
    | aborted | ended => exact ⟨[], .inl rfl, rfl⟩

section

variable {granted : Prop} {ended : Bool} (h : Course granted n .unborn calls ended)

include h

theorem Course.nodup : calls.Nodup := by
  rcases h.calls_eq with ⟨rfl, -⟩ | ⟨config, ⟨-, rfl, -⟩ | ⟨-, stops, rfl | rfl, rfl⟩⟩ <;>
    cases ended <;> simp

theorem Course.not_abort_stop : ¬ [.abort n, .stop n].Sublist calls := by
  rcases h.calls_eq with ⟨rfl, -⟩ | ⟨config, ⟨-, rfl, -⟩ | ⟨-, stops, rfl | rfl, rfl⟩⟩ <;>
    cases ended <;> simp [List.sublist_cons_iff]

theorem Course.count_abort_of_opened (hgranted : granted) {config : CaptureConfig}
    (hopened : .opening n config ∈ calls) :
    calls.count (.abort n) = if ended then 0 else 1 := by
  rcases h.calls_eq with ⟨rfl, -⟩ | ⟨config, ⟨hrefused, -⟩ | ⟨-, stops, hstops, rfl⟩⟩
  · simp at hopened
  · exact absurd hgranted hrefused
  · rcases hstops with rfl | rfl <;> cases ended <;> simp

theorem Course.opened_of_abort (habort : .abort n ∈ calls) :
    granted ∧ ∃ config, .opening n config ∈ calls := by
  rcases h.calls_eq with ⟨rfl, -⟩ | ⟨config, ⟨-, rfl, -⟩ | ⟨hgranted, stops, -, rfl⟩⟩
  · simp at habort
  · simp at habort
  · exact ⟨hgranted, config, List.mem_cons_self⟩

end

theorem count_about (calls : List RecognizerCall) (call : RecognizerCall) :
    (calls.filter (·.session = call.session)).count call = calls.count call :=
  List.count_filter (by simp)

/-! ## The main statement -/

theorem mem_drop_iff (c : Capture) (n : Nat) : .abort n ∈ c.drop ↔ n ∈ c.held := by
  simp [drop, release]

theorem Does.held_of_opening (h : Does c reports next calls) {attempt : Nat}
    {config : CaptureConfig} (hmem : .opening attempt config ∈ calls) : c.held = [] := by
  cases h with
  | nothing | ended => cases hmem
  | stopped | aborted => simp at hmem
  | opened hidle | refused hidle => exact hidle

theorem Does.of_report (h : Does c true next calls) (hheld : n ∈ c.held) :
    next = c.onEnd ∧ calls = [] := by
  cases h with
  | nothing _ _ hidle => simp [hidle rfl] at hheld
  | ended => exact ⟨rfl, rfl⟩

theorem silent (hc : c.WellFormed) {report : Action} (hreport : report.reportsEnd = true)
    (hheld : n ∈ c.held) (after : List Action) :
    ∀ call ∈ c.allCalls (report :: after), call.session ≠ n := by
  have hdoes := c.does_perform report
  have hlater := course_allCalls (hdoes.wellFormed hc) after n
  rw [hreport] at hdoes
  obtain ⟨hnext, hcalls⟩ := hdoes.of_report hheld
  have hclosed : c.onEnd.standing n = .closed :=
    standing_of_closed (by simp [held_onEnd]) (hc.numbered n hheld)
  rw [hnext, hclosed] at hlater
  rw [allCalls_cons, hcalls, hnext, List.nil_append]
  simpa using hlater.of_closed.1

section

variable {actions : List Action}
  (hcourse : Course (c.Grants n) n .unborn ((c.allCalls actions).filter (·.session = n))
    (c.reported n actions))

include hcourse

theorem not_sublist_abort_stop : ¬ [.abort n, .stop n].Sublist (c.allCalls actions) := by
  intro hsublist
  have hself : [RecognizerCall.abort n, .stop n].filter (·.session = n) =
      [.abort n, .stop n] := by
    simp [RecognizerCall.session]
  have habout := hsublist.filter (·.session = n)
  rw [hself] at habout
  exact hcourse.not_abort_stop habout

/-- A session that was opened is aborted once, unless its end is reported. -/
theorem count_abort (hopened : c.Opened (c.allCalls actions) n) :
    (c.allCalls actions).count (.abort n) = if c.reported n actions then 0 else 1 := by
  obtain ⟨hgranted, config, hmem⟩ := hopened
  rw [← count_about]
  exact hcourse.count_abort_of_opened hgranted
    (List.mem_filter.mpr ⟨hmem, by simp [RecognizerCall.session]⟩)

theorem opened_of_abort (habort : .abort n ∈ c.allCalls actions) :
    c.Opened (c.allCalls actions) n := by
  obtain ⟨hgranted, config, hopened⟩ := hcourse.opened_of_abort
    (List.mem_filter.mpr ⟨habort, by simp [RecognizerCall.session]⟩)
  exact ⟨hgranted, config, (List.mem_filter.mp hopened).1⟩

/-- The session there is was opened, has not been aborted, and its end has not been reported. -/
theorem mem_held_iff : n ∈ (c.run actions).result.1.held ↔
    c.Opened (c.run actions).calls n ∧ c.reported n actions = false ∧
      .abort n ∉ (c.run actions).calls := by
  have hcount : (c.allCalls actions).count (.abort n) =
      (c.run actions).calls.count (.abort n) + (c.run actions).result.1.drop.count (.abort n) :=
    List.count_append
  constructor
  · intro hheld
    have hdrop := (mem_drop_iff _ n).mpr hheld
    have hpos := List.count_pos_iff.mpr hdrop
    have hopened := opened_of_abort hcourse (List.mem_append_right _ hdrop)
    have hone := count_abort hcourse hopened
    have hreported : c.reported n actions = false := by
      rw [← Bool.not_eq_true]
      intro hreported
      rw [if_pos hreported] at hone
      omega
    rw [hreported, if_neg Bool.false_ne_true, hcount] at hone
    obtain ⟨hgranted, config, hmem⟩ := hopened
    refine ⟨⟨hgranted, config, ?_⟩, hreported, ?_⟩
    · rcases List.mem_append.mp hmem with hmem | hmem
      · exact hmem
      · simp [drop, release] at hmem
    · rw [← List.count_eq_zero]
      omega
  · rintro ⟨⟨hgranted, config, hmem⟩, hreported, hnone⟩
    have hone := count_abort hcourse
      ⟨hgranted, config, List.mem_append_left (c.run actions).result.1.drop hmem⟩
    rw [hreported, if_neg Bool.false_ne_true, hcount, List.count_eq_zero.mpr hnone] at hone
    refine (mem_drop_iff _ n).mp (List.count_pos_iff.mp ?_)
    omega

end

/-- **The life of every session**, whatever is done to a capture and whatever its recognizer
grants. -/
theorem lifecycle_run (recognizer : Option Recognizer) (config : CaptureConfig)
    (actions : List Action) : Lifecycle { recognizer, config } actions := by
  generalize hinit : ({ recognizer, config } : Capture) = c
  have hc : c.WellFormed := by
    subst hinit
    exact ⟨.inl rfl, by simp⟩
  have hcourse (n : Nat) : Course (c.Grants n) n .unborn
      ((c.allCalls actions).filter (·.session = n)) (c.reported n actions) := by
    have hunborn : c.standing n = .unborn := by
      subst hinit
      rfl
    rw [← hunborn]
    exact course_allCalls hc actions n
  have hnodup (call : RecognizerCall) : (c.allCalls actions).count call ≤ 1 := by
    rw [← count_about]
    exact List.nodup_iff_count.mp (hcourse call.session).nodup call
  have hlast := wellFormed_run hc actions
  constructor
  · unfold isListening isStopping
    rcases hlast.exclusive with hnone | hnone <;> simp [hnone]
  · exact hlast.length_held
  · exact fun n => mem_held_iff (hcourse n)
  · intro n hheld action attempt config hmem
    have hidle := ((c.run actions).result.1.does_perform action).held_of_opening hmem
    simp [hidle] at hheld
  · exact fun n => hnodup (.stop n)
  · exact fun n => hnodup (.abort n)
  · exact fun n => not_sublist_abort_stop (hcourse n)
  · intro before report after n _ hreport hheld
    exact silent (wellFormed_run hc before) hreport hheld after
  · exact fun n hopened => count_abort (hcourse n) hopened

end GuidedChat.Capture
