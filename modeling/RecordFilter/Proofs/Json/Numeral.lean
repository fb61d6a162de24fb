import Mathlib.Data.List.TakeWhile
import RecordFilter.Json.Printer
import RecordFilter.Proofs.Json.Token

/-!
# Integer literals

An integer of at most 64 bits is read back from its decimal digits
(`Token.ofChars?_integerChars`).  Its digits start with a zero only if it is zero, they stand for
its magnitude, and nothing is read behind them.
-/

namespace RecordFilter.Json.Token

/-! ### The decimal digits of a natural number -/

/-- The digits of a number are all read as digits. -/
lemma digits_toDigits (m : Nat) :
    digits (Nat.toDigits 10 m) = (Nat.toDigits 10 m).map fun c => c.toNat - '0'.toNat := by
  rw [digits, List.takeWhile_eq_self_iff.2 fun c hc =>
    Nat.isDigit_of_mem_toDigits (by decide) (by decide) hc]

/-- Nothing follows the digits of a number. -/
lemma afterDigits_toDigits (m : Nat) : afterDigits (Nat.toDigits 10 m) = [] :=
  List.dropWhile_eq_nil_iff.2 fun _ hc =>
    Nat.isDigit_of_mem_toDigits (by decide) (by decide) hc

/-- The digits of a number stand for it. -/
lemma natOf_digits_toDigits (m : Nat) : Numeral.natOf 0 (digits (Nat.toDigits 10 m)) = m := by
  rw [digits_toDigits, Numeral.natOf, List.foldl_map]
  calc (Nat.toDigits 10 m).foldl (fun n c => n * 10 + (c.toNat - '0'.toNat)) 0
      = Nat.ofDigitChars 10 (Nat.toDigits 10 m) 0 := by
        simp only [Nat.ofDigitChars_eq_foldl, Nat.mul_comm]
    _ = m := Nat.ofDigitChars_ten_toDigits

/-- The digits of a positive number do not start with zero. -/
lemma head?_digits_toDigits_ne {m : Nat} (hm : 0 < m) :
    (digits (Nat.toDigits 10 m)).head? ≠ some 0 := by
  induction m using Nat.strongRecOn with
  | ind m ih =>
    rw [digits_toDigits, List.head?_map]
    by_cases hsmall : m < 10
    · have hdigit : ∀ d < 10, d.digitChar.toNat - '0'.toNat = d := by decide
      rw [Nat.toDigits_of_lt_base hsmall, List.head?_cons, Option.map_some, hdigit m hsmall]
      exact fun h => hm.ne' (Option.some.inj h)
    · have hrest := ih (m / 10) (by omega) (by omega)
      rw [digits_toDigits, List.head?_map] at hrest
      rw [Nat.toDigits_of_base_le (by decide) (by omega), List.head?_append]
      rwa [Option.or_of_isSome (List.isSome_head?.2 Nat.toDigits_ne_nil)]

/-- Digits that do not start with zero may stand before a point. -/
lemma areWholeDigits_of_head?_ne {ds : List Nat} (hne : ds ≠ []) (h : ds.head? ≠ some 0) :
    areWholeDigits ds := by
  match ds with
  | [] => contradiction
  | [_] => rfl
  | first :: _ :: _ => simpa [areWholeDigits] using h

/-- The digits of a number may stand before a point. -/
lemma areWholeDigits_toDigits (m : Nat) : areWholeDigits (digits (Nat.toDigits 10 m)) := by
  rcases Nat.eq_zero_or_pos m with rfl | hm
  · rfl
  · refine areWholeDigits_of_head?_ne ?_ (head?_digits_toDigits_ne hm)
    simp [digits_toDigits, Nat.toDigits_ne_nil]

/-- The digits of a number are read as a numeral without fraction and exponent. -/
lemma numeral?_toDigits (negative : Bool) (m : Nat) :
    numeral? negative (Nat.toDigits 10 m) =
      some (⟨negative, digits (Nat.toDigits 10 m), none, none⟩, []) := by
  rw [numeral?, if_pos (areWholeDigits_toDigits m), afterDigits_toDigits]
  rfl

/-- An integer is read back from its text if it is the integer of its digits. -/
lemma number?_toDigits {negative : Bool} {m : Nat} {n : Int}
    (h : Numeral.integer? ⟨negative, digits (Nat.toDigits 10 m), none, none⟩ = some n) :
    number? negative (Nat.toDigits 10 m) = some (.number (some (.integer n)), []) := by
  rw [number?, numeral?_toDigits, Option.map_some]
  simp [Numeral.value?, Numeral.isIntegral, h]

/-- The integer of some digits behind a minus sign is the one they were written for. -/
lemma integer?_negative {n : Int} (hlow : -(Nat.pow 2 63 : Int) ≤ n) (hneg : n < 0) :
    Numeral.integer? ⟨true, digits (Nat.toDigits 10 n.natAbs), none, none⟩ = some n := by
  have hbound : 0 < n.natAbs ∧ n.natAbs ≤ Nat.pow 2 63 := ⟨by omega, by omega⟩
  simp only [Numeral.integer?, natOf_digits_toDigits, if_pos, if_pos hbound, Option.some.injEq]
  omega

/-- The integer of some digits is the one they were written for. -/
lemma integer?_nonnegative {n : Int} (hhigh : n < Numeral.wordBound) (hnonneg : ¬ n < 0) :
    Numeral.integer? ⟨false, digits (Nat.toDigits 10 n.natAbs), none, none⟩ = some n := by
  have hbound : n.natAbs < Numeral.wordBound := by omega
  simp only [Numeral.integer?, natOf_digits_toDigits, if_pos hbound, Bool.false_eq_true, if_false,
    Option.some.injEq]
  omega

/-- **Integers read back.**  The digits of an integer of at most 64 bits are one token, and it
stands for the integer. -/
theorem ofChars?_integerChars {n : Int} (hlow : -(Nat.pow 2 63 : Int) ≤ n)
    (hhigh : n < Numeral.wordBound) :
    ofChars? (JsonNumber.integerChars n) = some [.number (some (.integer n))] := by
  refine ofChars?_of_next?_nil ?_
  unfold JsonNumber.integerChars
  split_ifs with hneg
  · simp [next?, number?_toDigits (integer?_negative hlow hneg)]
  · have hread := number?_toDigits (integer?_nonnegative hhigh hneg)
    obtain ⟨c, body, hcons, hc⟩ := exists_isDigit_of_number? hread
    rw [hcons] at hread ⊢
    rw [next?_of_isDigit hc, hread, Option.map_some]

end RecordFilter.Json.Token
