/-! The digits of a natural number, first digit first, and the number that digits denote. Reading the digits
of a number back gives the number (`value_digits`). -/

namespace FormEditor.Decimal

abbrev Digit := Fin 10

namespace Digit

def zero : Digit :=
  ⟨0, by decide⟩

def char (digit : Digit) : Char :=
  Char.ofNat ('0'.toNat + digit.val)

def ofChar? (char : Char) : Option Digit :=
  let offset := char.toNat - '0'.toNat
  if valid : '0' ≤ char ∧ offset < 10 then some ⟨offset, valid.2⟩ else none

theorem ofChar?_char (digit : Digit) : ofChar? digit.char = some digit := by
  revert digit; decide

end Digit

/-- The number that digits denote when they follow the number `before`. -/
def valueAfter (before : Nat) (digits : List Digit) : Nat :=
  digits.foldl (fun value digit => value * 10 + digit.val) before

def value (digits : List Digit) : Nat :=
  valueAfter 0 digits

theorem valueAfter_append (before : Nat) (left right : List Digit) :
    valueAfter before (left ++ right) = valueAfter (valueAfter before left) right := by
  simp [valueAfter]

def digits (number : Nat) : List Digit :=
  if number < 10 then [Fin.ofNat 10 number]
  else digits (number / 10) ++ [Fin.ofNat 10 number]

theorem value_digits (number : Nat) : value (digits number) = number := by
  induction number using digits.induct with
  | case1 number small =>
    rw [digits, if_pos small]
    simp [value, valueAfter]
    omega
  | case2 number large ih =>
    rw [digits, if_neg large, value, valueAfter_append, ← value, ih]
    simp [valueAfter]
    omega

/-- The decimal text of a natural number, without leading zeros. -/
def text (number : Nat) : List Char :=
  (digits number).map Digit.char

def string (number : Nat) : String :=
  String.ofList (text number)

/-- The number that a text of digits denotes. -/
def ofText? (chars : List Char) : Option Nat :=
  if chars.isEmpty then none else (chars.mapM Digit.ofChar?).map value

end FormEditor.Decimal
