import FormEditor.Decimal.Digits
import FormEditor.Json.Value

/-! A numeral is a number as a text spells it. An integer that 64 bits hold keeps its value. Every other numeral
denotes a double: as many leading digits as 64 bits hold make a significand, the digits after them only move
the decimal point, and the significand is then scaled by a power of ten. A numeral beyond the range of
doubles denotes nothing. -/

namespace FormEditor

open Decimal (Digit)

/-- The power of ten of a numeral: its sign and its digits. -/
structure Numeral.Exponent where
  negative : Bool
  digits : List Digit
  deriving DecidableEq

structure Numeral where
  negative : Bool
  whole : List Digit
  fraction : Option (List Digit)
  exponent : Option Numeral.Exponent
  deriving DecidableEq

namespace Numeral

/-- Reads digits on to a number for as long as 64 bits hold it, and returns the digits left over. -/
def accumulate (value : Nat) : List Digit → Nat × List Digit
  | [] => (value, [])
  | digit :: digits =>
    if value * 10 + digit.val < 0x10000000000000000 then accumulate (value * 10 + digit.val) digits
    else (value, digit :: digits)

theorem le_valueAfter (value : Nat) (digits : List Digit) : value ≤ Decimal.valueAfter value digits := by
  induction digits generalizing value with
  | nil => exact Nat.le_refl value
  | cons digit digits ih =>
    have step := ih (value * 10 + digit.val)
    have rest : Decimal.valueAfter value (digit :: digits)
        = Decimal.valueAfter (value * 10 + digit.val) digits := rfl
    omega

/-- Digits of a number of 64 bits are all read. -/
theorem accumulate_of_lt (value : Nat) (digits : List Digit)
    (small : Decimal.valueAfter value digits < 0x10000000000000000) :
    accumulate value digits = (Decimal.valueAfter value digits, []) := by
  induction digits generalizing value with
  | nil => rfl
  | cons digit digits ih =>
    have rest : Decimal.valueAfter value (digit :: digits)
        = Decimal.valueAfter (value * 10 + digit.val) digits := rfl
    have bound := le_valueAfter (value * 10 + digit.val) digits
    rw [accumulate, if_pos (by omega), rest]
    exact ih _ (by rw [← rest]; exact small)

/-- Divides by a power of ten, by at most 308 places at a time. -/
def shrink (value : Float) (places : Nat) : Float :=
  if places ≤ 308 then value / Float.ofScientific 1 false places
  else if value == 0 then value
  else shrink (value / Float.ofScientific 1 false 308) (places - 308)
termination_by places

/-- A magnitude times a power of ten, unless it is beyond the range of doubles. -/
def scale? (value : Float) (power : Int) : Option Float :=
  if power < 0 then some (shrink value power.natAbs)
  else if power ≤ 308 then
    let product := value * Float.ofScientific 1 false power.natAbs
    if product.isInf then none else some product
  else if value == 0 then some value
  else none

/-- The largest power of ten that is told apart from the ones above it. -/
def exponentLimit : Nat := 0x7FFFFFFF

/-- The double that a sign, a significand, a shift of the decimal point and a power of ten denote. -/
def double? (negative : Bool) (significand : Nat) (shift : Int) (exponent : Option Exponent) :
    Option Float :=
  let magnitude : Float := (UInt64.ofNat significand).toFloat
  let signed (value : Float) : Float := if negative then -value else value
  match exponent with
  | none => (scale? magnitude shift).map signed
  | some power =>
    let size := Decimal.value power.digits
    if size ≤ exponentLimit then
      (scale? magnitude (if power.negative then shift - size else shift + size)).map signed
    else if significand ≠ 0 ∧ !power.negative then none
    else some (signed 0)

/-- An integer without a fraction or an exponent is kept whole; zero with a sign is a double. -/
def integer? (negative : Bool) (magnitude : Nat) : Option Number :=
  if negative then if magnitude = 0 then none else Number.ofInt? (-magnitude)
  else Number.ofInt? magnitude

/-- What a numeral denotes. -/
def number? (numeral : Numeral) : Option Number :=
  let (leading, surplus) := accumulate 0 numeral.whole
  let double (significand : Nat) (shift : Int) : Option Number :=
    (double? numeral.negative significand shift numeral.exponent).map .double
  match numeral.fraction with
  | some digits =>
    let (significand, dropped) := accumulate leading digits
    double significand (surplus.length - (digits.length - dropped.length))
  | none =>
    if surplus.isEmpty ∧ numeral.exponent.isNone then
      integer? numeral.negative leading <|> double leading 0
    else double leading surplus.length

/-- The numeral of an integer as it is written out. -/
def ofInt (value : Int) : Numeral :=
  ⟨decide (value < 0), Decimal.digits value.natAbs, none, none⟩

theorem number?_ofInt (value : Int) (fits : -0x8000000000000000 ≤ value ∧ value < 0x10000000000000000) :
    (ofInt value).number? = some (.integer value fits) := by
  have digits : Decimal.valueAfter 0 (Decimal.digits value.natAbs) = value.natAbs :=
    Decimal.value_digits value.natAbs
  have whole : accumulate 0 (ofInt value).whole = (value.natAbs, []) := by
    rw [ofInt, accumulate_of_lt 0 _ (by rw [digits]; omega), digits]
  have integer : integer? (decide (value < 0)) value.natAbs = some (.integer value fits) := by
    by_cases negative : value < 0
    · have size : (-(value.natAbs : Int)) = value := by omega
      rw [integer?, decide_eq_true negative, if_pos rfl, if_neg (by omega), size]
      exact Number.ofInt?_eq fits
    · have size : (value.natAbs : Int) = value := by omega
      rw [integer?, decide_eq_false negative, if_neg (by decide), size]
      exact Number.ofInt?_eq fits
  rw [number?, whole]
  simp [ofInt, integer]

end Numeral

end FormEditor
