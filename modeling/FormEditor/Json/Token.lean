import FormEditor.Json.Numeral

/-! A text is cut into tokens by a machine that reads one character at a time. A character that can neither
continue the token under way nor start another ends the tokens with a fault. Inside a string an escape may
name half of a surrogate pair; such a string is a token all the same, but it has no text. -/

namespace FormEditor.Json

open Decimal (Digit)

inductive Token where
  | openBrace
  | closeBrace
  | openBracket
  | closeBracket
  | comma
  | colon
  | null
  | bool (value : Bool)
  | number (numeral : Numeral)
  | string (text : Option String)
  | fault
  deriving DecidableEq

/-- A piece of a string: a character, or a code unit that an escape names. -/
inductive Piece where
  | plain (char : Char)
  | unit (code : Nat)
  deriving DecidableEq

namespace Piece

def isHighSurrogate (code : Nat) : Bool := 0xD800 ≤ code && code < 0xDC00

def isLowSurrogate (code : Nat) : Bool := 0xDC00 ≤ code && code < 0xE000

/-- The text of a string. A high surrogate needs a low one right after it, and a low one a high one before. -/
def join? : List Piece → Option (List Char)
  | [] => some []
  | .plain char :: pieces => (join? pieces).map (char :: ·)
  | .unit code :: pieces =>
    if isHighSurrogate code then
      match pieces with
      | .unit low :: pieces =>
        if isLowSurrogate low then
          (join? pieces).map (Char.ofNat (0x10000 + (code - 0xD800) * 0x400 + (low - 0xDC00)) :: ·)
        else none
      | _ => none
    else if isLowSurrogate code then none
    else (join? pieces).map (Char.ofNat code :: ·)

end Piece

def isBlank (char : Char) : Bool :=
  char == ' ' || char == '\t' || char == '\n' || char == '\r'

def hexValue? (char : Char) : Option Nat :=
  if '0' ≤ char ∧ char ≤ '9' then some (char.toNat - '0'.toNat)
  else if 'a' ≤ char ∧ char ≤ 'f' then some (char.toNat - 'a'.toNat + 10)
  else if 'A' ≤ char ∧ char ≤ 'F' then some (char.toNat - 'A'.toNat + 10)
  else none

/-- The character that a one-letter escape stands for. -/
def shortEscape? : Char → Option Char
  | '"' => some '"'
  | '\\' => some '\\'
  | '/' => some '/'
  | 'b' => some '\x08'
  | 'f' => some '\x0c'
  | 'n' => some '\n'
  | 'r' => some '\r'
  | 't' => some '\t'
  | _ => none

namespace Token

/-- Where the machine stands: between tokens or inside one. Pieces and digits are held latest first. -/
inductive Scanner where
  | between
  | word (rest : List Char) (token : Token)
  | text (pieces : List Piece)
  | escape (pieces : List Piece)
  | codeUnit (pieces : List Piece) (code missing : Nat)
  | sign
  | integer (negative : Bool) (digits : List Digit)
  | point (negative : Bool) (whole : List Digit)
  | fraction (negative : Bool) (whole digits : List Digit)
  | mark (numeral : Numeral)
  | markSign (numeral : Numeral) (negative : Bool)
  | power (numeral : Numeral) (negative : Bool) (digits : List Digit)
  | stopped
  deriving DecidableEq

namespace Scanner

/-- The numeral that the machine has read when it stands at a place where a numeral may end. -/
def numeral? : Scanner → Option Numeral
  | .integer negative digits => some ⟨negative, digits.reverse, none, none⟩
  | .fraction negative whole digits => some ⟨negative, whole, some digits.reverse, none⟩
  | .power numeral negative digits => some { numeral with exponent := some ⟨negative, digits.reverse⟩ }
  | _ => none

/-- The first character of a token. -/
def start (char : Char) : List Token × Scanner :=
  if isBlank char then ([], .between)
  else match char with
    | '{' => ([.openBrace], .between)
    | '}' => ([.closeBrace], .between)
    | '[' => ([.openBracket], .between)
    | ']' => ([.closeBracket], .between)
    | ',' => ([.comma], .between)
    | ':' => ([.colon], .between)
    | 'n' => ([], .word ['u', 'l', 'l'] .null)
    | 't' => ([], .word ['r', 'u', 'e'] (.bool true))
    | 'f' => ([], .word ['a', 'l', 's', 'e'] (.bool false))
    | '"' => ([], .text [])
    | '-' => ([], .sign)
    | _ =>
      match Digit.ofChar? char with
      | some digit => ([], .integer false [digit])
      | none => ([.fault], .stopped)

def fault : List Token × Scanner :=
  ([.fault], .stopped)

/-- A character right after the numeral that the machine has read: it ends the numeral. -/
def afterNumeral (scanner : Scanner) (char : Char) : List Token × Scanner :=
  match scanner.numeral? with
  | some numeral =>
    let (tokens, next) := start char
    (.number numeral :: tokens, next)
  | none => fault

def isExponentMark (char : Char) : Bool :=
  char == 'e' || char == 'E'

/-- What the machine does at a character: the tokens that end here and its next place. -/
def step (scanner : Scanner) (char : Char) : List Token × Scanner :=
  match scanner with
  | .between => start char
  | .word [] _ => fault
  | .word (letter :: rest) token =>
    if char ≠ letter then fault
    else if rest.isEmpty then ([token], .between)
    else ([], .word rest token)
  | .text pieces =>
    if char == '"' then ([.string ((Piece.join? pieces.reverse).map String.ofList)], .between)
    else if char == '\\' then ([], .escape pieces)
    else if char < ' ' then fault
    else ([], .text (.plain char :: pieces))
  | .escape pieces =>
    if char == 'u' then ([], .codeUnit pieces 0 4)
    else match shortEscape? char with
      | some char => ([], .text (.plain char :: pieces))
      | none => fault
  | .codeUnit pieces code missing =>
    match hexValue? char with
    | none => fault
    | some digit =>
      if 1 < missing then ([], .codeUnit pieces (code * 16 + digit) (missing - 1))
      else ([], .text (.unit (code * 16 + digit) :: pieces))
  | .sign =>
    match Digit.ofChar? char with
    | some digit => ([], .integer true [digit])
    | none => fault
  | .integer negative digits =>
    match Digit.ofChar? char with
    | some digit => if digits = [.zero] then fault else ([], .integer negative (digit :: digits))
    | none =>
      if char == '.' then ([], .point negative digits.reverse)
      else if isExponentMark char then ([], .mark ⟨negative, digits.reverse, none, none⟩)
      else scanner.afterNumeral char
  | .point negative whole =>
    match Digit.ofChar? char with
    | some digit => ([], .fraction negative whole [digit])
    | none => fault
  | .fraction negative whole digits =>
    match Digit.ofChar? char with
    | some digit => ([], .fraction negative whole (digit :: digits))
    | none =>
      if isExponentMark char then ([], .mark ⟨negative, whole, some digits.reverse, none⟩)
      else scanner.afterNumeral char
  | .mark numeral =>
    match Digit.ofChar? char with
    | some digit => ([], .power numeral false [digit])
    | none =>
      if char == '+' then ([], .markSign numeral false)
      else if char == '-' then ([], .markSign numeral true)
      else fault
  | .markSign numeral negative =>
    match Digit.ofChar? char with
    | some digit => ([], .power numeral negative [digit])
    | none => fault
  | .power numeral negative digits =>
    match Digit.ofChar? char with
    | some digit => ([], .power numeral negative (digit :: digits))
    | none => scanner.afterNumeral char
  | .stopped => ([], .stopped)

/-- What the end of the text leaves. -/
def finish (scanner : Scanner) : List Token :=
  match scanner with
  | .between | .stopped => []
  | _ =>
    match scanner.numeral? with
    | some numeral => [.number numeral]
    | none => [.fault]

end Scanner

/-- The tokens of a text, read from a place of the machine on. -/
def scanFrom (scanner : Scanner) : List Char → List Token
  | [] => scanner.finish
  | char :: chars =>
    let (tokens, next) := scanner.step char
    tokens ++ scanFrom next chars

def scan (text : List Char) : List Token :=
  scanFrom .between text

end Token

end FormEditor.Json
