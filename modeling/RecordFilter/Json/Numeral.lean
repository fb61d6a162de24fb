import RecordFilter.Json.Basic

/-!
# Numbers in JSON text

A numeral is the written form of a number: its sign, its digits before and after the point, and
its exponent.  `Numeral.value?` says which number it stands for.  A numeral without fraction and
exponent that fits in 64 bits is an integer, negative zero excepted.  Every other numeral is read
in double precision: its leading digits, as many as fit in 64 bits, are rounded, and the result
is scaled by the power of ten; a numeral beyond the greatest number has no value.
-/

namespace RecordFilter

/-- The written form of a number.  `fraction` is `none` without a point, `exponent` is `none`
without an exponent. -/
structure Numeral where
  negative : Bool
  whole : List Nat
  fraction : Option (List Nat)
  exponent : Option Int
  deriving Repr

namespace Numeral

/-- One more than the greatest natural number of 64 bits. -/
def wordBound : Nat := Nat.pow 2 64

/-- The natural number with the given decimal digits, added to the digits already read. -/
def natOf (start : Nat) (digits : List Nat) : Nat :=
  digits.foldl (fun n d => n * 10 + d) start

/-- The leading digits as long as they fit in 64 bits, and how many digits are left over. -/
def leading (start : Nat) : List Nat → Nat × Nat
  | [] => (start, 0)
  | d :: rest =>
    let next := start * 10 + d
    if next < wordBound then leading next rest else (start, rest.length + 1)

/-- The significant digits and the power of ten that scales them. -/
def scaled (n : Numeral) : Nat × Int :=
  let whole := leading 0 n.whole
  let fraction := n.fraction.getD []
  let all := leading whole.1 fraction
  (all.1, (whole.2 : Int) - (fraction.length - all.2 : Nat) + n.exponent.getD 0)

/-- The number in double precision that the numeral stands for. -/
def real? (n : Numeral) : Option Binary64 :=
  let (digits, power) := n.scaled
  ((Binary64.ofNat? digits).bind fun x => x.scaleByTen? power).map (Binary64.withSign n.negative)

/-- Whether the numeral is written as an integer. -/
def isIntegral (n : Numeral) : Bool :=
  n.fraction.isNone && n.exponent.isNone

/-- The integer that the digits before the point stand for, if it fits in 64 bits.  Negative
zero is no integer. -/
def integer? (n : Numeral) : Option Int :=
  let magnitude := natOf 0 n.whole
  if n.negative then
    if 0 < magnitude ∧ magnitude ≤ Nat.pow 2 63 then some (-(magnitude : Int)) else none
  else
    if magnitude < wordBound then some magnitude else none

/-- The number that the numeral stands for. -/
def value? (n : Numeral) : Option JsonNumber :=
  if n.isIntegral then
    match n.integer? with
    | some i => some (.integer i)
    | none => n.real?.map .real
  else n.real?.map .real

end Numeral

end RecordFilter
