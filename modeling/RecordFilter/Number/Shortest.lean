import RecordFilter.Number.Binary64

/-!
# The shortest decimal of a number in double precision

Among the decimals that read back as a given number there is one with the fewest digits, and of
those the one nearest to the number.  It is found by going through the decimal grids from coarse
to fine: on each grid only the two neighbours of the number can lie in its rounding interval,
and the first grid with a hit has the fewest digits.
-/

namespace RecordFilter

/-- A decimal magnitude: `digits * 10 ^ power`. -/
structure Decimal where
  digits : Nat
  power : Int
  deriving DecidableEq, Repr

namespace Decimal

/-- The digits as characters, without a sign. -/
def digitChars (d : Decimal) : List Char :=
  Nat.toDigits 10 d.digits

/-- The exponent of the first digit: the `e` of `d.ddd * 10 ^ e`. -/
def leadingExponent (d : Decimal) : Int :=
  d.power + d.digitChars.length - 1

/-- Drops the zeros at the end of the digits, at most `fuel` of them. -/
def dropZeros : Nat → Nat → Int → Decimal
  | 0, digits, power => ⟨digits, power⟩
  | fuel + 1, digits, power =>
    if digits ≠ 0 ∧ digits % 10 = 0 then dropZeros fuel (digits / 10) (power + 1)
    else ⟨digits, power⟩

/-- The same decimal without zeros at the end of the digits. -/
def reduced (digits : Nat) (power : Int) : Decimal :=
  dropZeros (Nat.toDigits 10 digits).length digits power

end Decimal

namespace Binary64

/-- The reals that round to a number, scaled to natural numbers: the ends of the interval and
the number itself in units of `1 / den`, and whether the ends belong to it. -/
structure RoundingInterval where
  low : Nat
  mid : Nat
  high : Nat
  den : Nat
  closed : Bool

/-- The rounding interval of a number: halfway to the neighbours, which are half as far below a
power of two; an end rounds to the number if its significand is even. -/
def roundingInterval (x : Binary64) : RoundingInterval :=
  let closed := x.significand % 2 == 0
  let quarter := 4 * x.significand
  let below := if x.significand = significandBound / 2 ∧ x.exponent ≠ minExponent then 1 else 2
  let exponent := x.exponent - 2
  if exponent < 0 then
    ⟨quarter - below, quarter, quarter + 2, Nat.pow 2 exponent.natAbs, closed⟩
  else
    let unit := Nat.pow 2 exponent.natAbs
    ⟨(quarter - below) * unit, quarter * unit, (quarter + 2) * unit, 1, closed⟩

/-- Whether `candidate * 10 ^ power` lies in a rounding interval. -/
def RoundingInterval.contains (r : RoundingInterval) (candidate : Nat) (power : Int) : Bool :=
  let scale := Nat.pow 10 power.natAbs
  let point := if power < 0 then candidate * r.den else candidate * scale * r.den
  let low := if power < 0 then r.low * scale else r.low
  let high := if power < 0 then r.high * scale else r.high
  if r.closed then low ≤ point && point ≤ high else low < point && point < high

/-- The middle of a rounding interval in units of `10 ^ power`, as a quotient. -/
def RoundingInterval.inTens (r : RoundingInterval) (power : Int) : Nat × Nat :=
  if power < 0 then (r.mid * Nat.pow 10 power.natAbs, r.den)
  else (r.mid, r.den * Nat.pow 10 power.natAbs)

/-- The point of the grid `10 ^ power` in the interval that is nearest to its middle, the even
one of two that are equally near. -/
def RoundingInterval.gridPoint? (r : RoundingInterval) (power : Int) : Option Nat :=
  let units := r.inTens power
  let nearest := divideRounding units.1 units.2
  let below := units.1 / units.2
  let other := if nearest = below then below + 1 else below
  if r.contains nearest power then some nearest
  else if r.contains other power then some other
  else none

/-- The first grid with a point in the interval, from `power` downwards. -/
def RoundingInterval.search (r : RoundingInterval) : Nat → Int → Decimal
  | 0, power => Decimal.reduced (divideRounding (r.inTens power).1 (r.inTens power).2) power
  | fuel + 1, power =>
    match r.gridPoint? power with
    | some digits => Decimal.reduced digits power
    | none => r.search fuel (power - 1)

/-- A power of ten above the number: no coarser grid has a positive point in the interval. -/
def powerAbove (x : Binary64) : Int :=
  ((x.significand.log2 : Int) + x.exponent) * 30103 / 100000 + 2

/-- The decimal with the fewest digits that reads back as the magnitude, and of those the
nearest. -/
def shortest (x : Binary64) : Decimal :=
  if x.isZero then ⟨0, 0⟩
  else x.roundingInterval.search 24 x.powerAbove

end Binary64

end RecordFilter
