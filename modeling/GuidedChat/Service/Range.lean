import GuidedChat.Text.Blank

/-! Byte ranges asked for of a file. Bounds are decimal numbers without needless zeros,
of at most 64 bits; a range has to lie in the file, or at least to begin there. -/

namespace GuidedChat.Service

/-- From one byte to another, both included. -/
structure ByteRange where
  first : Nat
  last : Nat
  deriving DecidableEq, Repr

inductive RangeDemand
  /-- Nothing that can be given. -/
  | unsatisfiable
  | single (range : ByteRange)
  | several
  deriving DecidableEq, Repr

namespace RangeDemand

def bound? (cs : List Char) : Option Nat :=
  if cs.isEmpty || !cs.all Char.isDigit || (cs.length > 1 && cs.head? = some '0') then none
  else
    let n := cs.foldl (fun n c => n * 10 + (c.toNat - '0'.toNat)) 0
    if n < UInt64.size then some n else none

/-- One range of a file of `size` bytes: from a byte on, up to a byte, or so many at the
end of the file. -/
def range? (size : Nat) (spec : List Char) : Option ByteRange := do
  let first := spec.takeWhile (· ≠ '-')
  match spec.dropWhile (· ≠ '-') with
  | [] => none
  | _ :: last =>
    let range ←
      if first.isEmpty then do
        let count ← bound? last
        if count = 0 ∨ size < count then none else some ⟨size - count, size - 1⟩
      else do
        let first ← bound? first
        if last.isEmpty then some ⟨first, size - 1⟩
        else some ⟨first, min (← bound? last) (size - 1)⟩
    if range.first ≤ range.last then some range else none

/-- A range may have one blank before it, and none elsewhere. -/
def unspaced? (spec : List Char) : Option (List Char) :=
  let rest := if spec.head?.any Text.isBlank then spec.tail else spec
  if rest.any Text.isBlank then none else some rest

def splitCommas (part : List Char) : List Char → List (List Char)
  | [] => [part.reverse]
  | ',' :: rest => part.reverse :: splitCommas [] rest
  | c :: rest => splitCommas (c :: part) rest

def overlaps (a b : ByteRange) : Bool := a.first ≤ b.last && b.first ≤ a.last

def anyOverlap : List ByteRange → Bool
  | [] => false
  | range :: rest => rest.any (overlaps range) || anyOverlap rest

def ofHeader (size : Nat) (header : String) : RangeDemand :=
  match header.toList with
  | 'b' :: 'y' :: 't' :: 'e' :: 's' :: '=' :: specs =>
    if specs.head?.any Text.isBlank then unsatisfiable
    else
      match (splitCommas [] specs).mapM fun spec => (unspaced? spec).bind (range? size) with
      | some [range] => single range
      | some (first :: rest) => if anyOverlap (first :: rest) then unsatisfiable else several
      | _ => unsatisfiable
  | _ => unsatisfiable

end RangeDemand

end GuidedChat.Service
