import FormEditor.Decimal.Shortest
import FormEditor.Json.Value
import FormEditor.Json.Numeral

/-! A value has a compact and an indented text. The two differ only in the blanks between tokens, which a
layout gives, so one printer serves both. An integer is written as it is. A double is written with the
fewest digits that read back, positionally as long as its point lies near its digits, and always as
something that no integer looks like. -/

namespace FormEditor

open Decimal (Digit Scientific)

namespace Numeral

/-- Where doubles are written positionally: the point lies at most so many places after the first digit, or
fewer than so many before it. -/
structure Positional where
  after : Nat
  before : Nat

def positional : Positional := ⟨16, 5⟩

/-- A positive decimal as it is written out. -/
def ofScientific (negative : Bool) (number : Scientific) : Numeral :=
  let digits := number.digits
  let place := number.point.natAbs
  if 0 < number.point ∧ place ≤ positional.after then
    let padded := digits ++ List.replicate (place - digits.length) .zero
    let fraction := digits.drop place
    ⟨negative, padded.take place, some (if fraction.isEmpty then [.zero] else fraction), none⟩
  else if number.point ≤ 0 ∧ place < positional.before then
    ⟨negative, [.zero], some (List.replicate place .zero ++ digits), none⟩
  else
    let power := number.point - 1
    let fraction := digits.drop 1
    ⟨negative, digits.take 1, if fraction.isEmpty then none else some fraction,
      some ⟨decide (power < 0), Decimal.digits power.natAbs⟩⟩

/-- A finite double as it is written out. -/
def ofFloat (value : Float) : Numeral :=
  let negative := 0x8000000000000000 ≤ value.toBits.toNat
  if value == 0 then ⟨negative, [.zero], some [.zero], none⟩
  else ofScientific negative (Decimal.shortest value)

def ofNumber : Number → Numeral
  | .integer value _ => ofInt value
  | .double value => ofFloat value

/-- The spelling of a numeral; an exponent has its sign even if it is positive. -/
def spell (numeral : Numeral) : List Char :=
  let chars (digits : List Digit) : List Char := digits.map Digit.char
  (if numeral.negative then ['-'] else []) ++ chars numeral.whole
    ++ numeral.fraction.elim [] (fun digits => '.' :: chars digits)
    ++ numeral.exponent.elim [] (fun power =>
      'e' :: (if power.negative then '-' else '+') :: chars power.digits)

end Numeral

namespace Json

/-- The blanks after a colon and at the start of a line inside so many containers. -/
structure Layout where
  afterColon : List Char
  line : Nat → List Char

def Layout.compact : Layout := ⟨[], fun _ => []⟩

/-- Each member and each item on a line of its own, two blanks further in than its container. -/
def Layout.indented : Layout := ⟨[' '], fun depth => '\n' :: List.replicate (2 * depth) ' '⟩

def hexDigit (value : Nat) : Char :=
  if value < 10 then Char.ofNat ('0'.toNat + value) else Char.ofNat ('a'.toNat + value - 10)

/-- A character inside a string: only the quote, the backslash and control characters are escaped. -/
def escape (char : Char) : List Char :=
  match char with
  | '"' => ['\\', '"']
  | '\\' => ['\\', '\\']
  | '\x08' => ['\\', 'b']
  | '\t' => ['\\', 't']
  | '\n' => ['\\', 'n']
  | '\x0c' => ['\\', 'f']
  | '\r' => ['\\', 'r']
  | _ =>
    if char < ' ' then
      ['\\', 'u', '0', '0', hexDigit (char.toNat / 16), hexDigit (char.toNat % 16)]
    else [char]

def quote (text : String) : List Char :=
  '"' :: (text.toList.flatMap escape ++ ['"'])

mutual

/-- The text of a value inside so many containers. -/
def print (layout : Layout) (depth : Nat) : Json → List Char
  | .null => ['n', 'u', 'l', 'l']
  | .bool true => ['t', 'r', 'u', 'e']
  | .bool false => ['f', 'a', 'l', 's', 'e']
  | .number value => (Numeral.ofNumber value).spell
  | .string text => quote text
  | .array [] => ['[', ']']
  | .array (item :: items) =>
    '[' :: (layout.line (depth + 1) ++ (print layout (depth + 1) item
      ++ printItems layout depth items))
  | .object [] => ['{', '}']
  | .object ((name, value) :: members) =>
    '{' :: (layout.line (depth + 1) ++ (quote name ++ (':' :: layout.afterColon
      ++ (print layout (depth + 1) value ++ printMembers layout depth members))))

/-- The items after the first one, with the end of the array. -/
def printItems (layout : Layout) (depth : Nat) : List Json → List Char
  | [] => layout.line depth ++ [']']
  | item :: items =>
    ',' :: (layout.line (depth + 1) ++ (print layout (depth + 1) item
      ++ printItems layout depth items))

/-- The members after the first one, with the end of the object. -/
def printMembers (layout : Layout) (depth : Nat) : List (String × Json) → List Char
  | [] => layout.line depth ++ ['}']
  | (name, value) :: members =>
    ',' :: (layout.line (depth + 1) ++ (quote name ++ (':' :: layout.afterColon
      ++ (print layout (depth + 1) value ++ printMembers layout depth members))))

end

def compact (value : Json) : String :=
  String.ofList (value.print .compact 0)

def pretty (value : Json) : String :=
  String.ofList (value.print .indented 0)

end Json

end FormEditor
