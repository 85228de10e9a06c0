import GuidedChat.Text.Utf8

/-! Request paths as places in a directory. A path is decoded first and split afterwards,
so an encoded slash separates like any other; whatever would lead out of the directory
names no place in it. -/

namespace GuidedChat.Service

def hexOf? (b : UInt8) : Option Nat :=
  let c := Char.ofNat b.toNat
  if '0' ≤ c ∧ c ≤ '9' then some (c.toNat - '0'.toNat)
  else if 'a' ≤ c ∧ c ≤ 'f' then some (c.toNat - 'a'.toNat + 10)
  else if 'A' ≤ c ∧ c ≤ 'F' then some (c.toNat - 'A'.toNat + 10)
  else none

/-- Bytes with each percent sign and two hexadecimal digits put together; any other
percent sign stands for itself. -/
def percentDecode : List UInt8 → List UInt8
  | 0x25 :: a :: b :: rest =>
    match hexOf? a, hexOf? b with
    | some high, some low => UInt8.ofNat (high * 16 + low) :: percentDecode rest
    | _, _ => 0x25 :: percentDecode (a :: b :: rest)
  | b :: rest => b :: percentDecode rest
  | [] => []

/-- A text cut at each slash. -/
def splitSlashes (part : List Char) : List Char → List String
  | [] => [String.ofList part.reverse]
  | '/' :: rest => String.ofList part.reverse :: splitSlashes [] rest
  | c :: rest => splitSlashes (c :: part) rest

/-- The names on the way to the place that a path stands for. -/
def place? (path : String) : Option (List String) := do
  let relative := String.ofList (path.toList.dropWhile (· = '/'))
  let decoded ← Utf8.decode? (percentDecode (Utf8.encode relative))
  if decoded.toList.head? = some '/' then none
  else
    let names := (splitSlashes [] decoded.toList).filter fun name => name ≠ "" && name ≠ "."
    if names.contains ".." then none else some names

end GuidedChat.Service
