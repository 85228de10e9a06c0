/-! The decimal with the fewest digits that reads back as a given binary number.
A finite double is `mantissa * 2 ^ exponent`, and the reals that round to it form
an interval whose ends belong to it when the mantissa is even. Decimal grids are
tried from the coarsest on; on the first grid with a point in the interval the
point nearest to the number is taken, so no shorter decimal reads back. -/

namespace GuidedChat

/-- A decimal number, `digits * 10 ^ exponent` with a sign. -/
structure Decimal where
  negative : Bool
  digits : Nat
  exponent : Int
  deriving DecidableEq, Repr

/-- The reals that round to one double, over a common denominator: those from
`low / scale` to `high / scale`, around `value / scale`. -/
structure Rounding where
  low : Nat
  value : Nat
  high : Nat
  scale : Nat
  closed : Bool

namespace Rounding

/-- The interval of the positive double `mantissa * 2 ^ (exponent - 1075)`; below a
power of two the doubles lie twice as close. -/
def ofParts (mantissa exponent : Nat) : Rounding :=
  let below := if mantissa = 1 <<< 52 ∧ exponent > 1 then 1 else 2
  let up := 1 <<< (exponent - 1075)
  { low := (4 * mantissa - below) * up
    value := 4 * mantissa * up
    high := (4 * mantissa + 2) * up
    scale := 4 <<< (1075 - exponent)
    closed := mantissa % 2 = 0 }

/-- Whether `n * unit / per` rounds to the number. -/
def holds (r : Rounding) (n unit per : Nat) : Bool :=
  let point := n * unit * r.scale
  if r.closed then r.low * per ≤ point && point ≤ r.high * per
  else r.low * per < point && point < r.high * per

/-- The point nearest to the number among those of the grid of step `unit / per`
that round to it. -/
def nearest? (r : Rounding) (unit per : Nat) : Option Nat :=
  let below := r.value * per / (unit * r.scale)
  let twiceRest := 2 * (r.value * per - below * unit * r.scale)
  let downFirst := twiceRest < unit * r.scale || (twiceRest = unit * r.scale && below % 2 = 0)
  let order := if downFirst then [below, below + 1] else [below + 1, below]
  order.find? (r.holds · unit per)

/-- Tries `fuel` grids, the coarsest with the step `10 ^ (top + fuel - 1)`. -/
def search (r : Rounding) (bottom : Int) : Nat → Option (Nat × Int)
  | 0 => none
  | fuel + 1 =>
    let exponent := bottom + fuel
    match r.nearest? (Nat.pow 10 exponent.toNat) (Nat.pow 10 (-exponent).toNat) with
    | some digits => some (digits, exponent)
    | none => search r bottom fuel

end Rounding

namespace Decimal

/-- The shortest decimal of a finite double. The least double is above `10 ^ -324`
and the greatest below `10 ^ 309`, so 650 grids from `10 ^ -340` suffice. -/
def ofFloat (x : Float) : Decimal :=
  let bits := x.toBits.toNat
  let negative := decide (bits ≥ 1 <<< 63)
  let exponent := (bits >>> 52) % (1 <<< 11)
  let fraction := bits % (1 <<< 52)
  let mantissa := if exponent = 0 then fraction else (1 <<< 52) + fraction
  if mantissa = 0 then ⟨negative, 0, 0⟩
  else
    match (Rounding.ofParts mantissa (max exponent 1)).search (-340) 650 with
    | some (digits, exponent) => ⟨negative, digits, exponent⟩
    | none => ⟨negative, 0, 0⟩

end Decimal

end GuidedChat
