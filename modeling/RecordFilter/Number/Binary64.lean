/-!
# Numbers in double precision

A finite number in double precision is a sign, a significand below `2 ^ 53` and a power of two.
All arithmetic on it is the exact result, rounded to the nearest such number, ties to the even
significand: `Binary64.round?` does the rounding once and for all, on quotients of natural
numbers, and the operations are stated through it.
-/

namespace RecordFilter

/-- A finite number in double precision: `significand * 2 ^ exponent`, with its sign. -/
structure Binary64 where
  negative : Bool
  significand : Nat
  exponent : Int
  deriving DecidableEq, Repr

namespace Binary64

/-- The least exponent, the one of the numbers next to zero. -/
def minExponent : Int := -1074

/-- The greatest exponent. -/
def maxExponent : Int := 971

/-- One more than the greatest significand. -/
def significandBound : Nat := Nat.pow 2 53

/-- The positive zero. -/
def zero : Binary64 := ⟨false, 0, minExponent⟩

/-- Whether the number is a zero of either sign. -/
def isZero (x : Binary64) : Bool :=
  x.significand == 0

/-- The number with the given sign and the same magnitude. -/
def withSign (negative : Bool) (x : Binary64) : Binary64 :=
  { x with negative := negative }

/-- The quotient of `num` and `den`, rounded to the nearest natural number, a half to the even
neighbour. -/
def divideRounding (num den : Nat) : Nat :=
  let below := num / den
  let twice := 2 * (num % den)
  if twice < den then below
  else if den < twice then below + 1
  else if below % 2 = 0 then below else below + 1

/-- The quotient of `num` and `den` in units of `2 ^ exponent`, as a quotient of natural
numbers. -/
def inUnits (num den : Nat) (exponent : Int) : Nat × Nat :=
  if exponent < 0 then (num * Nat.pow 2 exponent.natAbs, den)
  else (num, den * Nat.pow 2 exponent.natAbs)

/-- The exponent at which the quotient of `num` and `den` has a significand of 53 bits, or the
least exponent if it has fewer bits there. -/
def exponentFor (num den : Nat) : Int :=
  let guess : Int := max minExponent ((num.log2 : Int) - (den.log2 : Int) - 53)
  let units := inUnits num den guess
  if units.1 / units.2 < significandBound then guess else guess + 1

/-- The non-negative number in double precision nearest to the quotient of `num` and `den`, if
it does not lie beyond the greatest one. -/
def round? (num den : Nat) : Option Binary64 :=
  if num = 0 then some zero
  else
    let exponent := exponentFor num den
    let units := inUnits num den exponent
    let significand := divideRounding units.1 units.2
    let rounded : Binary64 :=
      if significand = significandBound then ⟨false, significand / 2, exponent + 1⟩
      else ⟨false, significand, exponent⟩
    if rounded.exponent ≤ maxExponent then some rounded else none

/-- The magnitude as a quotient of natural numbers. -/
def ratio (x : Binary64) : Nat × Nat :=
  if x.exponent < 0 then (x.significand, Nat.pow 2 x.exponent.natAbs)
  else (x.significand * Nat.pow 2 x.exponent.natAbs, 1)

/-- The number nearest to a natural number. -/
def ofNat? (n : Nat) : Option Binary64 :=
  round? n 1

/-- The product of two magnitudes, rounded. -/
def mul? (x y : Binary64) : Option Binary64 :=
  round? (x.ratio.1 * y.ratio.1) (x.ratio.2 * y.ratio.2)

/-- The quotient of two magnitudes, rounded. -/
def div? (x y : Binary64) : Option Binary64 :=
  round? (x.ratio.1 * y.ratio.2) (x.ratio.2 * y.ratio.1)

/-- The magnitude nearest to `digits * 10 ^ power`, in one rounding.  The decimal exponents far
outside the range are answered without computing the power. -/
def ofDecimal? (digits : Nat) (power : Int) : Option Binary64 :=
  if digits = 0 then some zero
  else
    let magnitude : Int := power + (Nat.toDigits 10 digits).length
    if 310 < magnitude then none
    else if magnitude < -330 then some zero
    else if power < 0 then round? digits (Nat.pow 10 power.natAbs)
    else round? (digits * Nat.pow 10 power.natAbs) 1

/-- The greatest power of ten in double precision. -/
def greatestTen : Nat := 308

/-- The magnitude divided by the number nearest to a power of ten. -/
def divTen? (x : Binary64) (power : Nat) : Option Binary64 :=
  match ofDecimal? 1 power with
  | none => none
  | some ten => x.div? ten

/-- The magnitude multiplied by the number nearest to a power of ten. -/
def mulTen? (x : Binary64) (power : Nat) : Option Binary64 :=
  match ofDecimal? 1 power with
  | none => none
  | some ten => x.mul? ten

/-- Divides a magnitude by the greatest power of ten `steps` times, each quotient rounded, and
then by a power of ten for the places that are left over.  Zero stays as it is. -/
def scaleDown? (x : Binary64) : (steps places : Nat) → Option Binary64
  | 0, places => x.divTen? places
  | steps + 1, places =>
    if x.isZero then some x
    else
      match x.divTen? greatestTen with
      | none => none
      | some y => y.scaleDown? steps places

/-- Scales a magnitude by a power of ten, with one rounded product for a positive power and one
rounded quotient for every 308 places of a negative one. -/
def scaleByTen? (x : Binary64) (power : Int) : Option Binary64 :=
  if x.isZero then some x
  else if power < 0 then
    let steps := (power.natAbs - 1) / greatestTen
    x.scaleDown? steps (power.natAbs - steps * greatestTen)
  else if greatestTen < power.natAbs then none
  else x.mulTen? power.natAbs

end Binary64

end RecordFilter
