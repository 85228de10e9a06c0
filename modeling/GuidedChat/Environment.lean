import GuidedChat.Text.Utf8

/-! Environment variables. A variable whose bytes are no text counts as missing wherever
a text is asked for. -/

namespace GuidedChat

structure Environment where
  entries : List (String × List UInt8) := []

namespace Environment

def bytes? (env : Environment) (name : String) : Option (List UInt8) :=
  env.entries.lookup name

def text? (env : Environment) (name : String) : Option String :=
  (env.bytes? name).bind Utf8.decode?

end Environment

end GuidedChat
