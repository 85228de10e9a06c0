/-! Command line arguments. Options have long names and take one value each, after an
equals sign or as the next argument; what begins with a dash is never such a next
argument, a dash alone excepted. After two dashes everything stands by position. The
arguments are taken from left to right, and the first that asks for help or does not
fit decides. -/

namespace GuidedChat.CommandLine

structure OptionForm where
  name : String
  /-- Whether a value is one that the option takes. -/
  accepts : String → Bool := fun _ => true

structure Form where
  options : List OptionForm
  /-- How many arguments may stand by position. -/
  positions : Nat := 0
  versioned : Bool := false

inductive Parsed
  | given (options : List (String × String)) (positional : List String)
  | help
  | version
  | malformed
  deriving DecidableEq, Repr

structure Taken where
  options : List (String × String) := []
  positional : List String := []
  /-- An option whose value comes next. -/
  waiting : Option OptionForm := none
  escaped : Bool := false

def startsWith (start : String) (arg : String) : Bool := start.toList.isPrefixOf arg.toList

def isValue (arg : String) : Bool := arg = "-" || !startsWith "-" arg

/-- The name of a long option and the value after its equals sign, if it has one. -/
def splitLong (arg : String) : String × Option String :=
  let body := arg.toList.drop 2
  let name := String.ofList (body.takeWhile (· ≠ '='))
  match body.dropWhile (· ≠ '=') with
  | _ :: value => (name, some (String.ofList value))
  | [] => (name, none)

namespace Form

/-- Gives an option its value, if it takes it and has none yet. -/
def give (taken : Taken) (option : OptionForm) (value : String) : Option Taken :=
  if option.accepts value && (taken.options.lookup option.name).isNone then
    some { taken with options := taken.options ++ [(option.name, value)], waiting := none }
  else none

def place (form : Form) (taken : Taken) (arg : String) : Option Taken :=
  if taken.positional.length < form.positions then
    some { taken with positional := taken.positional ++ [arg] }
  else none

/-- Takes one argument; the error is what the command line comes to then and there. -/
def take (form : Form) (taken : Taken) (arg : String) : Except Parsed Taken :=
  let fitting (taken : Option Taken) : Except Parsed Taken :=
    match taken with
    | some taken => .ok taken
    | none => .error .malformed
  if taken.escaped then fitting (form.place taken arg)
  else
    match taken.waiting with
    | some option => fitting (if isValue arg then give taken option arg else none)
    | none =>
      if arg = "--" then .ok { taken with escaped := true }
      else if startsWith "--" arg then
        match splitLong arg with
        | ("help", none) => .error .help
        | ("version", none) => .error (if form.versioned then .version else .malformed)
        | (name, value) =>
          match form.options.find? (·.name = name), value with
          | some option, some value => fitting (give taken option value)
          | some option, none => .ok { taken with waiting := some option }
          | none, _ => .error .malformed
      else if isValue arg then fitting (form.place taken arg)
      else if startsWith "-h" arg then .error .help
      else if startsWith "-V" arg && form.versioned then .error .version
      else .error .malformed

def parse (form : Form) (args : List String) : Parsed :=
  match args.foldlM form.take {} with
  | .error parsed => parsed
  | .ok taken =>
    if taken.waiting.isSome then .malformed else .given taken.options taken.positional

end Form

end GuidedChat.CommandLine
