import GuidedChat.Json.Tree
import GuidedChat.Text.Utf8

/-! Documents that come in bytes. JSON is spelled in ASCII but for what its strings hold, so
bytes that are no UTF-8 may stand in a string, which then has no text, and nowhere else. -/

namespace GuidedChat.Json

/-- What bytes that spell no character are read as: a letter, and half of a surrogate pair.
In a string this is no text; outside of one, and within an escape, it does not belong. -/
def garbled : String := "u\\ud800"

/-- The tree that bytes spell. -/
def readBytes? (bytes : List UInt8) : Option Json := read? (Utf8.marked garbled bytes)

example : (readBytes? [0x22, 0x61, 0x22]).map tokens = some [.string (some "a")] := by
  decide +kernel
example : (readBytes? [0x22, 0xFF, 0x22]).map tokens = some [.string none] := by decide +kernel
example : (readBytes? [0x22, 0x5C, 0xFF, 0x22]).map tokens = none := by decide +kernel
example : (readBytes? [0x31, 0xFF]).map tokens = none := by decide +kernel

end GuidedChat.Json
