import FormEditor.Decimal.Digits

/-! A positive double stands for the interval of reals that round to it. Its shortest decimal is the one with the
fewest digits in that interval, and among those the nearest to the double, an even last digit deciding a
tie. All of it is exact arithmetic on natural numbers: on the grid of decimals with a given number of
digits only the two neighbours of the double have to be tried. -/

namespace FormEditor.Decimal

/-- A decimal `0.d₁d₂… · 10 ^ point`, given by its digits and its point. -/
structure Scientific where
  digits : List Digit
  point : Int
  deriving DecidableEq

/-- The positive number `significand · 2 ^ exponent`; its lower neighbour is half as far away as the upper
one if it is the first of its binade. -/
structure Binary where
  significand : Nat
  exponent : Int
  first : Bool
  deriving DecidableEq

namespace Binary

/-- A double without its sign. -/
def ofFloat (value : Float) : Binary :=
  let bits : Nat := value.toBits.toNat
  let fraction : Nat := bits % 0x10000000000000
  let biased : Nat := bits / 0x10000000000000 % 0x800
  if biased = 0 then ⟨fraction, -1074, false⟩
  else ⟨0x10000000000000 + fraction, (biased : Int) - 1075, fraction = 0 ∧ 1 < biased⟩

/-- The reals that round to a number, as fractions of one denominator. -/
structure Interval where
  lower : Nat
  value : Nat
  upper : Nat
  denominator : Nat
  /-- Whether the ends belong to the interval. -/
  closed : Bool

def interval (number : Binary) : Interval :=
  let scale := Nat.pow 2 number.exponent.toNat
  let quarters := 4 * number.significand
  { lower := (quarters - if number.first then 1 else 2) * scale
    value := quarters * scale
    upper := (quarters + 2) * scale
    denominator := 4 * Nat.pow 2 (-number.exponent).toNat
    closed := number.significand % 2 = 0 }

end Binary

/-- The number of digits before the point, less the zeros after the point of a number below one tenth. -/
def magnitude (value denominator : Nat) : Int :=
  if denominator ≤ value then (digits (value / denominator)).length
  else 1 - (digits ((denominator - 1) / value)).length

/-- Whether `number · 10 ^ power` is in the interval. -/
def Binary.Interval.contains (interval : Interval) (number : Nat) (power : Int) : Bool :=
  let point := number * Nat.pow 10 power.toNat * interval.denominator
  let shift := Nat.pow 10 (-power).toNat
  if interval.closed then interval.lower * shift ≤ point && point ≤ interval.upper * shift
  else interval.lower * shift < point && point < interval.upper * shift

/-- Of the two neighbours of a value on the grid of multiples of `10 ^ power`, the one in the interval, or
the nearer one if both are. -/
def Binary.Interval.onGrid? (interval : Interval) (power : Int) : Option Nat :=
  let scaled := interval.value * Nat.pow 10 (-power).toNat
  let unit := interval.denominator * Nat.pow 10 power.toNat
  let below := scaled / unit
  let nearer := if 2 * (scaled % unit) < unit ∨ (2 * (scaled % unit) = unit ∧ below % 2 = 0) then below else below + 1
  match interval.contains below power, interval.contains (below + 1) power with
  | true, true => some nearer
  | true, false => some below
  | false, true => some (below + 1)
  | false, false => none

/-- Tries the grids with `count` digits, one more, and so on up to seventeen. -/
def Binary.Interval.shortest (interval : Interval) (top : Int) (count : Nat) : Nat × Int :=
  match interval.onGrid? (top - count) with
  | some number => (number, top - count)
  | none =>
    if count < 17 then interval.shortest top (count + 1)
    else
      (interval.value * Nat.pow 10 (count - top).toNat
        / (interval.denominator * Nat.pow 10 (top - count).toNat), top - count)
termination_by 17 - count

/-- The shortest decimal of a positive finite double. -/
def shortest (value : Float) : Scientific :=
  let interval := (Binary.ofFloat value).interval
  let (number, power) := interval.shortest (magnitude interval.value interval.denominator) 1
  let all := digits number
  ⟨(all.reverse.dropWhile (· == .zero)).reverse, all.length + power⟩

end FormEditor.Decimal
