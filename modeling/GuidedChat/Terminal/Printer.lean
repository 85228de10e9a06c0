import GuidedChat.Conversation.Turn

/-! Replies printed while they grow. Each time, the printer is shown the whole reply; it
prints what is new at its end, and starts again on a new line if what it has printed is
no longer the beginning of the reply. -/

namespace GuidedChat.Terminal

/-- What follows `start` in a text that begins with it. -/
def after? : List Char → List Char → Option (List Char)
  | [], text => some text
  | _ :: _, [] => none
  | a :: start, b :: text => if a = b then after? start text else none

theorem after?_eq_some_iff {start text rest : List Char} :
    after? start text = some rest ↔ text = start ++ rest := by
  induction start generalizing text with
  | nil => simp [after?, eq_comm]
  | cons a start ih =>
    cases text with
    | nil => simp [after?]
    | cons b text =>
      by_cases h : a = b
      · simp [after?, h, ih]
      · simp [after?, h, Ne.symm h]

structure Printer where
  /-- The reply as it was last shown. -/
  shown : String := ""
  output : String := ""
  deriving DecidableEq, Repr

namespace Printer

def display (printer : Printer) (reply : String) : Printer :=
  let added :=
    match after? printer.shown.toList reply.toList with
    | some rest => String.ofList rest
    | none => "\n" ++ reply
  { shown := reply, output := printer.output ++ added }

end Printer

def lastContent? (c : Conversation) : Option String := c.messages.getLast?.map (·.content)

/-- Takes in one event of a turn and prints what it changes. -/
def printEvent (turn : Nat) (state : Conversation × Printer) (event : TurnEvent) :
    Conversation × Printer :=
  let (c, changed) := state.1.apply turn event
  match changed, lastContent? c with
  | true, some reply => (c, state.2.display reply)
  | _, _ => (c, state.2)

/-- The conversation after a turn, and what is printed meanwhile: the line is ended. -/
def printTurn (c : Conversation) (turn : Nat) (events : List TurnEvent) : Conversation × String :=
  let (c, printer) := events.foldl (printEvent turn) (c, {})
  (c, printer.output ++ "\n")

end GuidedChat.Terminal
