import GuidedChat.Called

/-! Dictation into a text field. At most one recognizer session exists at a time: it
listens, or it was stopped and still has results to deliver. A session is known by the
number of the attempt that opened it. Unstable text is shown while it listens and never
becomes input; final text is handed to the caller in whatever state it arrives. -/

namespace GuidedChat

structure CaptureConfig where
  continuous : Bool := true
  interimResults : Bool := true
  locale : String := "ja-JP"
  deriving DecidableEq, Repr

structure Segment where
  text : String
  isFinal : Bool
  deriving DecidableEq, Repr

inductive CaptureError
  | unsupported
  | alreadyActive
  | platform (reason : String)
  deriving DecidableEq, Repr

def CaptureError.message : CaptureError → String
  | unsupported => "speech capture is not supported on this platform"
  | alreadyActive => "a capture session is already active"
  | platform reason => "speech capture failed: " ++ reason

/-- The platform's recognizer: what becomes of each attempt to open a session. -/
abbrev Recognizer := Nat → Except CaptureError Unit

inductive RecognizerCall
  | opening (attempt : Nat) (config : CaptureConfig)
  /-- Ends a session, which may still deliver final results. -/
  | stop (session : Nat)
  /-- Ends a session and discards its results. -/
  | abort (session : Nat)
  deriving DecidableEq, Repr

def RecognizerCall.describe : RecognizerCall → String
  | opening attempt config =>
    "open " ++ toString attempt ++ " " ++ toString config.continuous ++ " " ++
      toString config.interimResults ++ " " ++ config.locale
  | stop session => "stop " ++ toString session
  | abort session => "abort " ++ toString session

structure Capture where
  recognizer : Option Recognizer
  config : CaptureConfig := {}
  /-- The session that listens. -/
  active : Option Nat := none
  /-- The session that was stopped and has not ended yet. -/
  stopping : Option Nat := none
  attempts : Nat := 0
  interim : String := ""

namespace Capture

def isSupported (c : Capture) : Bool := c.recognizer.isSome

def isListening (c : Capture) : Bool := c.active.isSome

/-- A stopped session still has its final results to deliver. -/
def isStopping (c : Capture) : Bool := c.stopping.isSome

def held (c : Capture) : List Nat := c.active.toList ++ c.stopping.toList

/-- What an operation leaves behind and gives back. -/
abbrev Effect (α : Type) := Called RecognizerCall (Capture × α)

def start (c : Capture) : Effect (Except CaptureError Unit) :=
  if c.isListening || c.isStopping then ⟨[], c, .error .alreadyActive⟩
  else
    match c.recognizer with
    | none => ⟨[], c, .error .unsupported⟩
    | some recognizer =>
      let tried := { c with attempts := c.attempts + 1 }
      ⟨[.opening c.attempts c.config],
        match recognizer c.attempts with
        | .error error => (tried, .error error)
        | .ok () => ({ tried with active := some c.attempts, interim := "" }, .ok ())⟩

/-- Asks the recognizer to finish. The session stays until its end is reported. -/
def stop (c : Capture) : Effect Unit :=
  match c.active with
  | some session =>
    ⟨[.stop session], { c with active := none, stopping := some session, interim := "" }, ()⟩
  | none => ⟨[], { c with interim := "" }, ()⟩

/-- Stops if listening and starts otherwise; gives back whether it listens now. -/
def toggle (c : Capture) : Effect (Except CaptureError Bool) :=
  if c.isListening then
    let stopped := c.stop
    ⟨stopped.calls, stopped.result.1, .ok false⟩
  else
    let started := c.start
    ⟨started.calls, started.result.1, started.result.2.map fun () => true⟩

def joined (isFinal : Bool) (segments : List Segment) : String :=
  String.join ((segments.filter (·.isFinal = isFinal)).map (·.text))

/-- Takes in a batch of results, and gives back the final text in it, if any. -/
def onResults (c : Capture) (segments : List Segment) : Capture × Option String :=
  let final := joined true segments
  let heard := joined false segments
  let interim :=
    if heard ≠ "" ∧ c.isListening then heard
    else if final ≠ "" then ""
    else c.interim
  ({ c with interim }, if final = "" then none else some final)

def onEnd (c : Capture) : Capture := { c with active := none, stopping := none, interim := "" }

/-- The recognizer has failed, which ends the session whatever the failure is. -/
def onError (c : Capture) (_code : String) : Capture := c.onEnd

def release (c : Capture) : Effect Unit := ⟨c.held.map .abort, c.onEnd, ()⟩

end Capture

end GuidedChat
