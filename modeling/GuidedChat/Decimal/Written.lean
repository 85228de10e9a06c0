import GuidedChat.Decimal.Shortest

/-! Decimals as text. A decimal whose point falls among its digits, or not too far beside
them, is written out around the point; any other has one digit before its point and says
by a power of ten how far the point is away. -/

namespace GuidedChat.Decimal

/-- Where the point may fall in a decimal that is written out, counted in digits from the
first one: after `above` and up to `upTo`. -/
structure Reach where
  above : Int
  upTo : Int
  deriving DecidableEq, Repr

/-- How many digits stand before the point; not positive if zeros follow it. -/
def point (d : Decimal) : Int := (Nat.toDigits 10 d.digits).length + d.exponent

private def sign (d : Decimal) : List Char := if d.negative then ['-'] else []

private def zeros (n : Nat) : List Char := List.replicate n '0'

/-- All digits written out around a point, with at least one on each side of it. -/
def pointed (d : Decimal) : String :=
  let digits := Nat.toDigits 10 d.digits
  let places := (-d.exponent).toNat
  let body :=
    if 0 ≤ d.exponent then digits ++ zeros d.exponent.toNat ++ ['.', '0']
    else
      let padded := zeros (places + 1 - digits.length) ++ digits
      padded.take (padded.length - places) ++ '.' :: padded.drop (padded.length - places)
  String.ofList (d.sign ++ body)

/-- One digit, the others after a point if there are any, and a power of ten with its sign. -/
def scaled (d : Decimal) : String :=
  let body :=
    match Nat.toDigits 10 d.digits with
    | first :: second :: rest => first :: '.' :: second :: rest
    | digits => digits
  let power := d.point - 1
  let powerSign := if power < 0 then '-' else '+'
  String.ofList (d.sign ++ body ++ 'e' :: powerSign :: Nat.toDigits 10 power.natAbs)

def written (reach : Reach) (d : Decimal) : String :=
  if reach.above < d.point ∧ d.point ≤ reach.upTo then d.pointed else d.scaled

example : pointed ⟨false, 15, -1⟩ = "1.5" := by decide
example : pointed ⟨true, 0, 0⟩ = "-0.0" := by decide
example : pointed ⟨false, 25, -4⟩ = "0.0025" := by decide
example : pointed ⟨false, 3, 2⟩ = "300.0" := by decide
example : scaled ⟨false, 15, -7⟩ = "1.5e-6" := by decide
example : scaled ⟨true, 1, 16⟩ = "-1e+16" := by decide

end GuidedChat.Decimal
