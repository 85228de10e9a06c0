import GuidedChat.Terminal.Program

/-! The terminal program as it is started. It is built without a network of its own, so
every request it makes goes unanswered. Only a chat reads what is typed. -/

namespace GuidedChat.Terminal

/-- The variables that the program looks at. -/
def readEnvironment : IO Environment := do
  let names := ["NAVI_SERVER", "GOOGLE_API_KEY", "NAVI_MODEL", "NAVI_API_BASE"]
  let found ← names.filterMapM fun name => do
    return (← IO.getEnv name).map fun value => (name, Utf8.encode value)
  return { entries := found }

partial def readAll (input : IO.FS.Stream) (read : ByteArray) : IO ByteArray := do
  let more ← input.read 4096
  if more.isEmpty then return read else readAll input (read ++ more)

def start (args : List String) : IO UInt32 := do
  let env ← readEnvironment
  let typed ←
    match Request.ofArguments env args with
    | .run (.chat ..) => readAll (← IO.getStdin) .empty
    | _ => pure .empty
  let outcome := run args env (fun _ => .unreachable "no network") typed.toList
  IO.print outcome.output
  return UInt32.ofNat outcome.exit

end GuidedChat.Terminal

def main (args : List String) : IO UInt32 := GuidedChat.Terminal.start args
