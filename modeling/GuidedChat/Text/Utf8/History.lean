import GuidedChat.Text.Utf8

/-! What can be done with a decoder, as data, so that histories can be spoken of. -/

namespace GuidedChat.Utf8.Decoder

inductive Action
  | push (bytes : List UInt8)
  | finish
  deriving DecidableEq, Repr

def perform (decoder : Decoder) : Action → Decoder × String
  | .push bytes => (decoder.push bytes).swap
  | .finish => decoder.finish.swap

/-- The decoder after some actions, with the text that each of them gave back. -/
def run (decoder : Decoder) : List Action → Decoder × List String
  | [] => (decoder, [])
  | action :: rest =>
    let (next, text) := decoder.perform action
    let (last, texts) := next.run rest
    (last, text :: texts)

/-- Bytes that arrive in chunks, and their end. -/
def stretch (chunks : List (List UInt8)) : List Action := chunks.map .push ++ [.finish]

theorem run_cons (decoder : Decoder) (action : Action) (rest : List Action) :
    decoder.run (action :: rest) =
      (((decoder.perform action).1.run rest).1,
        (decoder.perform action).2 :: ((decoder.perform action).1.run rest).2) := rfl

theorem run_append (decoder : Decoder) (before after : List Action) :
    decoder.run (before ++ after) =
      (((decoder.run before).1.run after).1,
        (decoder.run before).2 ++ ((decoder.run before).1.run after).2) := by
  induction before generalizing decoder with
  | nil => simp [run]
  | cons action rest ih => simp [run, ih]

end GuidedChat.Utf8.Decoder
