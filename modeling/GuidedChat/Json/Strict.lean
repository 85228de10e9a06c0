import GuidedChat.Json.Tree
import GuidedChat.Text.Utf8

/-! Documents taken as values as a whole: every string has a text, every number is in
range, and nothing is nested deeper than a fixed limit. In an object the last of
several members with one name counts. -/

namespace GuidedChat.Json

/-- How many arrays and objects may lie within each other. -/
def nestingLimit : Nat := 127

/-- Whether a tree is a value nested at most `limit` deep. -/
def isValue : Nat → Json → Bool
  | _, null => true
  | _, bool _ => true
  | _, number n => n.value?.isSome
  | _, string text => text.isSome
  | limit + 1, array items => items.all (isValue limit)
  | limit + 1, object members =>
    members.all fun (key, value) => key.isSome && isValue limit value
  | 0, array _ => false
  | 0, object _ => false

def ofBytes? (bytes : List UInt8) : Option Json := do
  let value ← read? (← Utf8.decode? bytes)
  if isValue nestingLimit value then some value else none

def member? (name : String) : Json → Option Json
  | object members => (members.reverse.find? (·.1 = some name)).map (·.2)
  | _ => none

end GuidedChat.Json
