import GuidedChat.Capture

/-! What can happen to a capture, as data, so that histories can be spoken of. -/

namespace GuidedChat.Capture

inductive Action
  | start
  | stop
  | toggle
  | results (segments : List Segment)
  | ended
  | failed (code : String)
  | release
  deriving DecidableEq, Repr

inductive Outcome
  | done
  | started (result : Except CaptureError Unit)
  | toggled (result : Except CaptureError Bool)
  | heard (text : Option String)

def perform (c : Capture) : Action → Effect Outcome
  | .start => ⟨c.start.calls, c.start.result.1, .started c.start.result.2⟩
  | .stop => ⟨c.stop.calls, c.stop.result.1, .done⟩
  | .toggle => ⟨c.toggle.calls, c.toggle.result.1, .toggled c.toggle.result.2⟩
  | .results segments => ⟨[], (c.onResults segments).map id .heard⟩
  | .ended => ⟨[], c.onEnd, .done⟩
  | .failed code => ⟨[], c.onError code, .done⟩
  | .release => ⟨c.release.calls, c.release.result.1, .done⟩

/-- The capture after some actions, with what each of them gave back, and all calls made
to the recognizer meanwhile. -/
def run (c : Capture) : List Action → Effect (List Outcome)
  | [] => ⟨[], c, []⟩
  | action :: rest =>
    let first := c.perform action
    let later := first.result.1.run rest
    ⟨first.calls ++ later.calls, later.result.1, first.result.2 :: later.result.2⟩

theorem run_cons (c : Capture) (action : Action) (rest : List Action) :
    c.run (action :: rest) =
      ⟨(c.perform action).calls ++ ((c.perform action).result.1.run rest).calls,
        ((c.perform action).result.1.run rest).result.1,
        (c.perform action).result.2 :: ((c.perform action).result.1.run rest).result.2⟩ := rfl

theorem run_append (c : Capture) (before after : List Action) :
    c.run (before ++ after) =
      ⟨(c.run before).calls ++ ((c.run before).result.1.run after).calls,
        ((c.run before).result.1.run after).result.1,
        (c.run before).result.2 ++ ((c.run before).result.1.run after).result.2⟩ := by
  induction before generalizing c with
  | nil => rfl
  | cons action rest ih => rw [List.cons_append, run_cons, ih, run_cons, List.append_assoc]; rfl

/-- Gives a capture up: a session that is left is aborted. -/
def drop (c : Capture) : List RecognizerCall := c.release.calls

end GuidedChat.Capture
