import GuidedChat.CommandLine.Arguments
import GuidedChat.Provider.Client
import GuidedChat.Service.Address

/-! Starting the service: where it listens, what it serves, and the provider behind it.
The command line comes first, then the environment for what it leaves open, and then the
provider's configuration. -/

namespace GuidedChat.Service

structure Launch where
  bind : String
  staticDirectory : Option (List UInt8)
  client : Provider.Client

inductive LaunchError
  /-- The command line, or a variable in its place, does not fit. -/
  | usage
  | config (cause : Provider.ConfigError)
  deriving DecidableEq, Repr

/-- Why nothing was launched, or that there was nothing to launch. -/
inductive Halt
  | done
  | error (error : LaunchError)
  deriving DecidableEq, Repr

def Halt.exit : Halt → Nat
  | done => 0
  | error .usage => 2
  | error (.config _) => 1

namespace Launch

open CommandLine

def form : Form where
  options := [⟨"bind", Address.isSocket⟩, ⟨"static-dir", (· ≠ "")⟩]
  versioned := true

def defaultBind : String := "0.0.0.0:3000"

def usage : Halt := .error .usage

def bindOf (env : Environment) (options : List (String × String)) : Except Halt String :=
  match options.lookup "bind", env.bytes? "NAVI_BIND" with
  | some bind, _ => .ok bind
  | none, none => .ok defaultBind
  | none, some bytes =>
    match (Utf8.decode? bytes).filter Address.isSocket with
    | some bind => .ok bind
    | none => .error usage

/-- A directory's name may be any bytes, but not none. -/
def directoryOf (env : Environment) (options : List (String × String)) :
    Except Halt (Option (List UInt8)) :=
  match options.lookup "static-dir", env.bytes? "NAVI_STATIC_DIR" with
  | some name, _ => .ok (some (Utf8.encode name))
  | none, none => .ok none
  | none, some bytes => if bytes.isEmpty then .error usage else .ok (some bytes)

def prepare (args : List String) (env : Environment) : Except Halt Launch :=
  match form.parse args with
  | .help | .version => .error .done
  | .malformed => .error usage
  | .given options _ => do
    let bind ← bindOf env options
    let staticDirectory ← directoryOf env options
    let configured := do
      (← Provider.Config.ofEnvironment env).client
    let client ← configured.mapError fun cause => Halt.error (.config cause)
    return { bind, staticDirectory, client }

end Launch

end GuidedChat.Service
