import GuidedChat.Text.Utf8

/-! Events in a stream of text lines. A line ends with a carriage return, a line feed or
both; at the very end a lone carriage return ends nothing, since a line feed might have
followed. An event is what the data lines before an empty line carry, joined by line
feeds; without a data line there is no event, and what no empty line closes is dropped. -/

namespace GuidedChat.EventStream

/-- The ended lines of a text, each read into `line` backwards. -/
def splitLines (line : List Char) (done : List (List Char)) : List Char → List (List Char)
  | [] => done.reverse
  | '\r' :: '\n' :: rest => splitLines [] (line.reverse :: done) rest
  | ['\r'] => done.reverse
  | '\r' :: rest => splitLines [] (line.reverse :: done) rest
  | '\n' :: rest => splitLines [] (line.reverse :: done) rest
  | c :: rest => splitLines (c :: line) done rest

def lines (text : List Char) : List (List Char) := splitLines [] [] text

/-- What a data line carries: all after its colon, less one space. A line that is just
the name carries nothing; any other line is no data line. -/
def dataOf? : List Char → Option (List Char)
  | 'd' :: 'a' :: 't' :: 'a' :: rest =>
    match rest with
    | [] => some []
    | ':' :: ' ' :: value => some value
    | ':' :: value => some value
    | _ => none
  | _ => none

/-- The data of an event after another data line. -/
def extend (data : Option (List Char)) (value : List Char) : List Char :=
  match data with
  | none => value
  | some before => before ++ '\n' :: value

def gather (data : Option (List Char)) : List (List Char) → List String
  | [] => []
  | [] :: rest =>
    match data with
    | some data => String.ofList data :: gather none rest
    | none => gather none rest
  | line :: rest =>
    match dataOf? line with
    | some value => gather (some (extend data value)) rest
    | none => gather data rest

def events (text : List Char) : List String := gather none (lines text)

/-- The events of some bytes as far as they are text, and whether all of them are. -/
def ofBytes (bytes : List UInt8) : List String × Bool :=
  let (text, whole) := Utf8.leading bytes
  (events text.toList, whole)

end GuidedChat.EventStream
