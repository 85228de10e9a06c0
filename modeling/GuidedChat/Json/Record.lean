import GuidedChat.Json.Tree

/-! Trees read as records of a fixed set of fields. A record may be an object, in
any order, or an array of its fields by position; an object may hold other members,
which are not looked at, but may not repeat a field. -/

namespace GuidedChat.Json

def text? : Json → Option String
  | string text => text
  | _ => none

def items? : Json → Option (List Json)
  | array items => some items
  | _ => none

/-- The fields of a record, each at most once, in the order in which they come. -/
def fields? (names : List String) : Json → Option (List (String × Json))
  | object members => do
    let named ← members.mapM fun (key, value) => key.map (·, value)
    let fields := named.filter (names.contains ·.1)
    if (fields.map (·.1)).Nodup then some fields else none
  | array items => if items.length ≤ names.length then some (names.zip items) else none
  | _ => none

/-- The name of a case that carries nothing: alone, or as the one member of an object,
with null. -/
def caseName? : Json → Option String
  | string name => name
  | object [(some name, null)] => some name
  | _ => none

/-- A field that may be left out, but not be null. -/
def optional {α : Type} (fields : List (String × Json)) (name : String) (absent : α)
    (read : Json → Option α) : Option α :=
  match fields.lookup name with
  | some value => read value
  | none => some absent

/-- A field that may be left out or be null. -/
def nullable {α : Type} (fields : List (String × Json)) (name : String)
    (read : Json → Option α) : Option (Option α) :=
  match fields.lookup name with
  | some null | none => some none
  | some value => (read value).map some

def required {α : Type} (fields : List (String × Json)) (name : String)
    (read : Json → Option α) : Option α :=
  (fields.lookup name).bind read

def all? {α : Type} (read : Json → Option α) (value : Json) : Option (List α) :=
  value.items?.bind (List.mapM read)

end GuidedChat.Json
