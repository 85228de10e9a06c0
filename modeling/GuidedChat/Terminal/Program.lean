import GuidedChat.CommandLine.Arguments
import GuidedChat.Terminal.Ask
import GuidedChat.Text.Shown

/-! The terminal program: its commands, their options and its help. A command line that
does not fit ends with 2 and prints nothing; one that fits but names no flow ends with 1. -/

namespace GuidedChat.Terminal

inductive Command
  | chat (flow server : String)
  | ask (flow message : String)
  | personas
  deriving DecidableEq, Repr

/-- What a command line asks for. -/
inductive Request
  | run (command : Command)
  | print (text : String)
  | malformed
  deriving DecidableEq, Repr

def defaultFlow : String := "vision-navi"

def defaultServer : String := "http://localhost:3000"

namespace Help

private def page (lines : List String) : String := String.join (lines.map (· ++ "\n"))

def program : String := page [
  "Terminal client for the guided reflection chats",
  "",
  "Usage: navi-cli <COMMAND>",
  "",
  "Commands:",
  "  chat      Chat with a flow through a running relay server",
  "  ask       Send one message straight to the upstream model and print the reply",
  "  personas  List the available flows",
  "  help      Print this message or the help of the given subcommand(s)",
  "",
  "Options:",
  "  -h, --help     Print help",
  "  -V, --version  Print version"]

/-- Text whose further lines begin in the column of the first one. -/
private def hanging (column : Nat) (text : String) : String :=
  String.ofList (text.toList.flatMap fun c =>
    if c = '\n' then c :: List.replicate column ' ' else [c])

/-- Emphasis for a terminal. -/
private def strong (name : String) : String := "\x1b[1m" ++ name ++ "\x1b[0m"

/-- The page is shown without steering, its own emphasis included: what the environment holds
may begin a sequence, and then the next emphasised name ends it. -/
def chat (env : Environment) : String :=
  let server := Utf8.lossy ((env.bytes? "NAVI_SERVER").getD [])
  Text.shown (page [
    "Chat with a flow through a running relay server",
    "",
    "Usage: navi-cli chat [OPTIONS]",
    "",
    "Options:",
    "      " ++ strong "--flow" ++ " <FLOW>      [default: " ++ defaultFlow ++ "]",
    "      " ++ strong "--server" ++ " <SERVER>  " ++
      hanging 25 ("[env: NAVI_SERVER=" ++ server ++ "] [default: " ++ defaultServer ++ "]"),
    "  " ++ strong "-h" ++ ", " ++ strong "--help" ++ "             Print help"])

def ask : String := page [
  "Send one message straight to the upstream model and print the reply",
  "",
  "Usage: navi-cli ask [OPTIONS] <MESSAGE>",
  "",
  "Arguments:",
  "  <MESSAGE>  ",
  "",
  "Options:",
  "      --flow <FLOW>  [default: " ++ defaultFlow ++ "]",
  "  -h, --help         Print help"]

def personas : String := page [
  "List the available flows",
  "",
  "Usage: navi-cli personas",
  "",
  "Options:",
  "  -h, --help  Print help"]

def help : String := page [
  "Print this message or the help of the given subcommand(s)",
  "",
  "Usage: navi-cli help [COMMAND]...",
  "",
  "Arguments:",
  "  [COMMAND]...  Print help for the subcommand(s)"]

def version : String := "navi 0.1.0\n"

end Help

namespace Request

open CommandLine

/-- The request of a command, where `given` is what its arguments come to. -/
def ofParsed (help : String) (given : List (String × String) → List String → Request) :
    Parsed → Request
  | .given options positional => given options positional
  | .help => print help
  | .version => print Help.version
  | .malformed => malformed

def flowOf (options : List (String × String)) : String :=
  (options.lookup "flow").getD defaultFlow

/-- The server is named by an option, else by the environment. -/
def chatWith (env : Environment) (options : List (String × String)) : Request :=
  let chat (server : String) := run (.chat (flowOf options) server)
  match options.lookup "server", env.bytes? "NAVI_SERVER" with
  | some server, _ => chat server
  | none, none => chat defaultServer
  | none, some bytes =>
    match Utf8.decode? bytes with
    | some server => chat server
    | none => malformed

def ofArguments (env : Environment) : List String → Request
  | ["help"] => print Help.program
  | ["help", "chat"] => print (Help.chat env)
  | ["help", "ask"] => print Help.ask
  | ["help", "personas"] => print Help.personas
  | ["help", "help"] => print Help.help
  | "chat" :: args =>
    ofParsed (Help.chat env) (fun options _ => chatWith env options)
      (Form.parse { options := [{ name := "flow" }, { name := "server" }] } args)
  | "ask" :: args =>
    ofParsed Help.ask
      (fun options positional =>
        match positional with
        | [message] => run (.ask (flowOf options) message)
        | _ => malformed)
      (Form.parse { options := [{ name := "flow" }], positions := 1 } args)
  | "personas" :: args =>
    ofParsed Help.personas (fun _ _ => run .personas) (Form.parse { options := [] } args)
  | args =>
    ofParsed Help.program (fun _ _ => malformed)
      (Form.parse { options := [], versioned := true } args)

end Request

namespace Command

def run (env : Environment) (network : Http.Network) (input : List UInt8) : Command → Outcome
  | chat flow server =>
    match Persona.bySlug? flow with
    | some persona => Terminal.chat persona server network input
    | none => { exit := 1 }
  | ask flow message =>
    match Persona.bySlug? flow with
    | some persona => Terminal.ask env network persona message
    | none => { exit := 1 }
  | personas =>
    { exit := 0
      output := String.join (Persona.all.map fun p => p.slug ++ "\t" ++ p.flow.name ++ "\n") }

end Command

/-- Runs the program. -/
def run (args : List String) (env : Environment) (network : Http.Network) (input : List UInt8) :
    Outcome :=
  match Request.ofArguments env args with
  | .run command => command.run env network input
  | .print text => { exit := 0, output := text }
  | .malformed => { exit := 2 }

end GuidedChat.Terminal
