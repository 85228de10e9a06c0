/-! Socket addresses as they are written: four decimal bytes, or an IPv6 address in
brackets, then a colon and a number of sixteen bits. -/

namespace GuidedChat.Service

namespace Address

def digits? (cs : List Char) : Option Nat :=
  if cs.isEmpty || !cs.all Char.isDigit then none
  else some (cs.foldl (fun n c => n * 10 + (c.toNat - '0'.toNat)) 0)

def splitAt (separator : Char) (part : List Char) : List Char → List (List Char)
  | [] => [part.reverse]
  | c :: rest =>
    if c = separator then part.reverse :: splitAt separator [] rest
    else splitAt separator (c :: part) rest

def isByte (cs : List Char) : Bool :=
  cs.length ≤ 3 && (cs.length = 1 || cs.head? ≠ some '0') && (digits? cs).any (· < UInt8.size)

def isWord (cs : List Char) : Bool := (digits? cs).any (· < UInt16.size)

/-- Four bytes between points. -/
def isV4 (cs : List Char) : Bool :=
  let bytes := splitAt '.' [] cs
  bytes.length = 4 && bytes.all isByte

def isGroup (cs : List Char) : Bool :=
  !cs.isEmpty && cs.length ≤ 4 && cs.all fun c =>
    c.isDigit || ('a' ≤ c && c ≤ 'f') || ('A' ≤ c && c ≤ 'F')

/-- How many groups some text between colons stands for; four bytes may take the place
of the last two. -/
def groups? (last : Bool) (cs : List Char) : Option Nat :=
  if cs.isEmpty then some 0
  else
    let parts := splitAt ':' [] cs
    if parts.all isGroup then some parts.length
    else if last && parts.dropLast.all isGroup && (parts.getLast?.any isV4) then
      some (parts.length + 1)
    else none

/-- Cuts a text at its first pair of colons. -/
def splitGap (front : List Char) : List Char → Option (List Char × List Char)
  | ':' :: ':' :: rest => some (front.reverse, rest)
  | c :: rest => splitGap (c :: front) rest
  | [] => none

/-- Eight groups, or fewer around one pair of colons that stands for those left out. -/
def isV6 (cs : List Char) : Bool :=
  match splitGap [] cs with
  | none => groups? true cs = some 8
  | some (front, back) =>
    match groups? false front, groups? true back with
    | some before, some behind => before + behind < 8
    | _, _ => false

/-- An address in brackets may name a scope by number. -/
def isScopedV6 (cs : List Char) : Bool :=
  match splitAt '%' [] cs with
  | [address] => isV6 address
  | [address, scope] => isV6 address && (digits? scope).any (· < UInt32.size)
  | _ => false

def isSocket (text : String) : Bool :=
  match text.toList with
  | '[' :: cs =>
    match cs.dropWhile (· ≠ ']') with
    | ']' :: ':' :: number => isScopedV6 (cs.takeWhile (· ≠ ']')) && isWord number
    | _ => false
  | cs =>
    match cs.dropWhile (· ≠ ':') with
    | _ :: number => isV4 (cs.takeWhile (· ≠ ':')) && isWord number
    | [] => false

end Address

end GuidedChat.Service
