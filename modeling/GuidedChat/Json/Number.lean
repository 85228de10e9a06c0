/-! JSON numbers, kept as they are spelled. A literal is a maximal run of number
marks that fits the grammar; its value is worked out only where one is asked for.
Whole numbers of at most 64 bits are exact. Any other literal is a double reached
in two roundings: nineteen or twenty leading digits are taken as a whole number,
and that is scaled by a power of ten. -/

namespace GuidedChat

namespace Json.Number

def isMark (c : Char) : Bool :=
  c.isDigit || c == '-' || c == '+' || c == '.' || c == 'e' || c == 'E'

def isDigits (cs : List Char) : Bool := !cs.isEmpty && cs.all Char.isDigit

/-- Either sign, or neither, in front of an exponent's digits. -/
def unsigned : List Char → List Char
  | '+' :: cs | '-' :: cs => cs
  | cs => cs

def endsWell : List Char → Bool
  | [] => true
  | c :: cs => (c == 'e' || c == 'E') && isDigits (unsigned cs)

def fractionWell : List Char → Bool
  | '.' :: cs => !(cs.takeWhile Char.isDigit).isEmpty && endsWell (cs.dropWhile Char.isDigit)
  | cs => endsWell cs

def wholeWell : List Char → Bool
  | [] => false
  | '0' :: cs => fractionWell cs
  | c :: cs => c.isDigit && fractionWell (cs.dropWhile Char.isDigit)

/-- A minus sign or none, digits without a needless zero in front, a fraction or
none, an exponent or none. -/
def isSpelled : List Char → Bool
  | '-' :: cs => wholeWell cs
  | cs => wholeWell cs

end Json.Number

structure Json.Number where
  literal : List Char
  spelled : Json.Number.isSpelled literal = true
  deriving DecidableEq, Repr

namespace Json.Number

def of? (literal : List Char) : Option Number :=
  if h : isSpelled literal = true then some ⟨literal, h⟩ else none

theorem of?_literal (n : Number) : of? n.literal = some n := by
  simp [of?, n.spelled]

inductive Value
  | natural (n : Nat)
  | negative (n : Int)
  | real (x : Float)

/-- The leading digits of a literal as a whole number, with the power of ten that
scales it. Once a digit no longer fits into 64 bits, no later one is taken in. -/
structure Scaled where
  digits : Nat := 0
  power : Int := 0
  full : Bool := false

def Scaled.append (s : Scaled) (c : Char) (whole : Bool) : Scaled :=
  let digits := s.digits * 10 + (c.toNat - '0'.toNat)
  if s.full || digits ≥ UInt64.size then
    { s with full := true, power := if whole then s.power + 1 else s.power }
  else { s with digits := digits, power := if whole then s.power else s.power - 1 }

private def tenTo (n : Nat) : Float := Float.ofScientific 1 false n

/-- The double `x * 10 ^ power`, by one factor of at most `10 ^ 308` at a time, or none if
that is too large. A 64-bit whole number is zero after two of them. -/
def scale? : Nat → Float → Int → Option Float
  | 0, x, _ => some x
  | fuel + 1, x, power =>
    if power.natAbs ≤ 308 then
      if 0 ≤ power then
        let y := x * tenTo power.natAbs
        if y.isInf then none else some y
      else some (x / tenTo power.natAbs)
    else if x == 0 then some x
    else if 0 ≤ power then none
    else scale? fuel (x / tenTo 308) (power + 308)

def signed (negative : Bool) (x : Float) : Float := if negative then -x else x

/-- The number that `digits` spell, unless it needs more than 31 bits. -/
def exponent? (digits : List Char) : Option Nat :=
  digits.foldl (fun n c => do
    let n := (← n) * 10 + (c.toNat - '0'.toNat)
    if n < 1 <<< 31 then some n else none) (some 0)

def Scaled.real? (negative : Bool) (s : Scaled) : Option Float :=
  (scale? 4 (UInt64.ofNat s.digits).toFloat s.power).map (signed negative)

/-- The double after a fraction, where `cs` is the exponent or empty. -/
def Scaled.withExponent? (negative : Bool) (s : Scaled) : List Char → Option Float
  | [] => s.real? negative
  | _ :: cs =>
    let down := cs.head? == some '-'
    match exponent? (unsigned cs) with
    | some n =>
      let power := if down then s.power - n else s.power + n
      Scaled.real? negative { s with power }
    | none => if s.digits ≠ 0 && !down then none else some (signed negative 0)

/-- The value of a literal; none if it is out of a double's range. -/
def value? (n : Number) : Option Value :=
  let negative := n.literal.head? == some '-'
  let unsigned := if negative then n.literal.tail else n.literal
  let whole := (unsigned.takeWhile Char.isDigit).foldl (Scaled.append · · true) {}
  match unsigned.dropWhile Char.isDigit with
  | '.' :: cs =>
    let whole := { whole with full := false }
    let all := (cs.takeWhile Char.isDigit).foldl (Scaled.append · · false) whole
    (all.withExponent? negative (cs.dropWhile Char.isDigit)).map .real
  | [] =>
    if whole.full then (whole.real? negative).map .real
    else if !negative then some (.natural whole.digits)
    else if 0 < whole.digits ∧ whole.digits ≤ 1 <<< 63 then some (.negative (-whole.digits))
    else (whole.real? negative).map .real
  | cs => (whole.withExponent? negative cs).map .real

end Json.Number

end GuidedChat
