import GuidedChat.Text.Utf8

/-! What is left of a text where nothing may be steered by it: the characters that print,
without control characters and control sequences. An escape begins a sequence, and its next
characters say of which kind. A line break, a tab or another such blank may stand within one
and stays, and so does what follows it up to a control character, where the sequence goes on. -/

namespace GuidedChat.Text

/-- Where in a control sequence a text is, if it is in one. -/
inductive Steering
  | free
  | escape
  /-- After an escape and characters that do not say yet what it is. -/
  | escapeMiddle
  /-- Parameters up to a letter. -/
  | command
  /-- A string for the operating system, up to a bell. -/
  | title
  /-- The opening of a string for a device, up to a letter. -/
  | deviceHead
  /-- After parameters of that opening. -/
  | deviceParameters
  /-- After what may follow the parameters. -/
  | deviceMiddle
  | device
  deriving DecidableEq, Repr

namespace Steering

/-- The byte that ends a string for a device, wherever it stands. -/
def terminator : UInt8 := 0x9C

def terminates (c : Char) : Bool := (Utf8.encode (String.singleton c)).contains terminator

def isLayout (c : Char) : Bool := c = '\t' || c = '\n' || c = '\x0c' || c = '\r'

def ofEscape (c : Char) : Steering :=
  if c = '[' then command
  else if c = ']' then title
  else if c = 'P' then deviceHead
  else if c = 'X' || c = '^' || c = '_' then device
  else if ' ' ≤ c && c ≤ '/' then escapeMiddle
  else if '0' ≤ c && c ≤ '~' then free
  else escape

/-- The state after a character that is not shown. -/
def afterHidden (c : Char) : Steering → Steering
  | free => free
  | escape => ofEscape c
  | escapeMiddle => if '0' ≤ c && c ≤ '~' then free else escapeMiddle
  | command => if '@' ≤ c && c ≤ '~' then free else command
  | title => if c = '\x07' then free else title
  | deviceHead =>
    if ' ' ≤ c && c ≤ '/' then deviceMiddle
    else if '0' ≤ c && c ≤ '?' then deviceParameters
    else if '@' ≤ c && c ≤ '~' then device
    else deviceHead
  | deviceParameters =>
    if ' ' ≤ c && c ≤ '/' then deviceMiddle
    else if '<' ≤ c && c ≤ '~' then device
    else deviceParameters
  | deviceMiddle => if '0' ≤ c && c ≤ '~' then device else deviceMiddle
  | device => if terminates c then free else device

def isShown (c : Char) : Steering → Bool
  | free => isLayout c || (' ' ≤ c && c ≠ '\x7f')
  | escape | escapeMiddle | command => isLayout c
  | title | deviceHead | deviceParameters | deviceMiddle | device => false

/-- Two characters end any sequence, and an escape begins another. -/
def hide (state : Steering) (c : Char) : Steering :=
  if c = '\x1b' then escape
  else if c = '\x18' || c = '\x1a' then free
  else state.afterHidden c

end Steering

structure Reading where
  /-- Whether the last character was shown. If it was, the next one is too unless it is a
  control character, whatever sequence it stands in. -/
  showing : Bool := false
  state : Steering := .free
  deriving DecidableEq, Repr

namespace Reading

def isShown (reading : Reading) (c : Char) : Bool :=
  if reading.showing then Steering.free.isShown c else reading.state.isShown c

/-- A character beyond ASCII that is shown ends a sequence. -/
def step (reading : Reading) (c : Char) : Reading :=
  if reading.isShown c then ⟨true, if c.toNat < 128 then reading.state else .free⟩
  else ⟨false, reading.state.hide c⟩

end Reading

def shownFrom (reading : Reading) : List Char → List Char
  | [] => []
  | c :: cs =>
    let rest := shownFrom (reading.step c) cs
    if reading.isShown c then c :: rest else rest

def shown (text : String) : String := String.ofList (shownFrom {} text.toList)

example : shown "a\x01b\x1b[1mc" = "abc" := by decide
example : shown "\x1b]0;t\x07z" = "z" := by decide
example : shown "a\r\tb\x7f" = "a\r\tb" := by decide
example : shown "\x1b[1\n2\x01m3" = "\n23" := by decide

end GuidedChat.Text
