/-! Lines of bytes. A line ends with a line feed, and a carriage return before that belongs
to the end; bytes after the last line feed are a line as they are. -/

namespace GuidedChat.Text

/-- A line that is read backwards, without the carriage return at its end. -/
def endedLine : List UInt8 → List UInt8
  | 0x0D :: line => line.reverse
  | line => line.reverse

def linesFrom (done : List (List UInt8)) (line : List UInt8) : List UInt8 → List (List UInt8)
  | [] => (if line.isEmpty then done else line.reverse :: done).reverse
  | 0x0A :: rest => linesFrom (endedLine line :: done) [] rest
  | b :: rest => linesFrom done (b :: line) rest

def lines (bytes : List UInt8) : List (List UInt8) := linesFrom [] [] bytes

example : lines [0x61, 0x0D, 0x0A, 0x0A, 0x62, 0x0D] = [[0x61], [], [0x62, 0x0D]] := by decide

end GuidedChat.Text
