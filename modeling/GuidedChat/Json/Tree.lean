import GuidedChat.Json.Token

/-! JSON documents as trees, in the order in which they are written. A tree is read
from its tokens by one pass that keeps the open arrays and objects on a stack, so
nesting costs no more than length. Repeated keys stay; what they mean is for the
reader of the tree to say. -/

namespace GuidedChat

inductive Json
  | null
  | bool (b : Bool)
  | number (n : Json.Number)
  | string (text : Option String)
  | array (items : List Json)
  | object (members : List (Option String × Json))
  deriving Repr, Inhabited

namespace Json

def text (s : String) : Json := string (some s)

def record (members : List (String × Json)) : Json :=
  object (members.map fun (key, value) => (some key, value))

/-! ## Writing -/

mutual

/-- The one way to spell a tree in tokens. -/
def tokens : Json → List Token
  | null => [.null]
  | bool b => [.bool b]
  | number n => [.number n]
  | string text => [.string text]
  | array [] => [.openArray, .closeArray]
  | array (item :: items) => .openArray :: tokens item ++ itemTokens items
  | object [] => [.openObject, .closeObject]
  | object (member :: members) => .openObject :: memberTokens member ++ membersTokens members

/-- The items after the first, and the end of their array. -/
def itemTokens : List Json → List Token
  | [] => [.closeArray]
  | item :: items => .comma :: tokens item ++ itemTokens items

def memberTokens : Option String × Json → List Token
  | (key, value) => .string key :: .colon :: tokens value

def membersTokens : List (Option String × Json) → List Token
  | [] => [.closeObject]
  | member :: members => .comma :: memberTokens member ++ membersTokens members

end

/-- The text of a tree, without any space outside its strings. -/
def compact (value : Json) : String :=
  String.ofList (value.tokens.flatMap Token.spelling)

/-! ## Reading -/

/-- An array or object whose end has not come, with what it holds so far, latest
first. A member whose value has not come lies above its object. -/
inductive Open
  | array (items : List Json)
  | object (members : List (Option String × Json))
  | member (key : Option String)

/-- What the next token may be. -/
inductive Expected
  | value
  | valueOrEnd
  | key
  | keyOrEnd
  | colon
  | commaOrEnd

inductive Reading
  | inside (expected : Expected) (stack : List Open)
  | complete (value : Json)

namespace Reading

/-- A value has come; it goes into what is open around it. -/
def put (value : Json) : List Open → Option Reading
  | [] => some (.complete value)
  | .array items :: stack => some (.inside .commaOrEnd (.array (value :: items) :: stack))
  | .member key :: .object members :: stack =>
    some (.inside .commaOrEnd (.object ((key, value) :: members) :: stack))
  | _ => none

def start (stack : List Open) : Token → Option Reading
  | .null => put .null stack
  | .bool b => put (.bool b) stack
  | .number n => put (.number n) stack
  | .string text => put (.string text) stack
  | .openArray => some (.inside .valueOrEnd (.array [] :: stack))
  | .openObject => some (.inside .keyOrEnd (.object [] :: stack))
  | _ => none

/-- The innermost array or object ends. -/
def finish : List Open → Token → Option Reading
  | .array items :: stack, .closeArray => put (.array items.reverse) stack
  | .object members :: stack, .closeObject => put (.object members.reverse) stack
  | _, _ => none

def step : Reading → Token → Option Reading
  | .complete _, _ => none
  | .inside .value stack, token => start stack token
  | .inside .valueOrEnd stack, .closeArray => finish stack .closeArray
  | .inside .valueOrEnd stack, token => start stack token
  | .inside .key stack, .string key => some (.inside .colon (.member key :: stack))
  | .inside .keyOrEnd stack, .string key => some (.inside .colon (.member key :: stack))
  | .inside .keyOrEnd stack, token => finish stack token
  | .inside .colon stack, .colon => some (.inside .value stack)
  | .inside .commaOrEnd (.array items :: stack), .comma =>
    some (.inside .value (.array items :: stack))
  | .inside .commaOrEnd (.object members :: stack), .comma =>
    some (.inside .key (.object members :: stack))
  | .inside .commaOrEnd stack, token => finish stack token
  | _, _ => none

def value? : Reading → Option Json
  | .complete value => some value
  | .inside .. => none

end Reading

def ofTokens? (tokens : List Token) : Option Json :=
  (tokens.foldlM Reading.step (.inside .value [])).bind Reading.value?

def read? (text : String) : Option Json :=
  (Token.scan text.toList).bind ofTokens?

example : (read? " [1, \"a\"] ").map compact = some "[1,\"a\"]" := by decide +kernel
example : (read? "[1 2]").map compact = none := by decide +kernel

end Json

end GuidedChat
