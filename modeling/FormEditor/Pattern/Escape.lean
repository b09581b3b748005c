import FormEditor.Pattern.Basic
import FormEditor.Pattern.Flags
import FormEditor.Pattern.Property

/-! What a backslash and the characters after it stand for: a character, a set of characters or an anchor. A
letter or digit without a meaning after a backslash is refused, and so is every character beyond ASCII. -/

namespace FormEditor.Pattern

/-- The smallest parts of a pattern. -/
inductive Atom where
  | char (char : Char)
  | set (set : CharSet)
  | anchor (anchor : Anchor)

/-- The value of a digit in some base up to 16. -/
def digitValue (char : Char) : Nat :=
  if char.isDigit then char.toNat - '0'.toNat else char.toLower.toNat - 'a'.toNat + 10

def isHexDigit (char : Char) : Bool :=
  char.isDigit || ('a' ≤ char.toLower && char.toLower ≤ 'f')

def numeralValue (base : Nat) (digits : List Char) : Nat :=
  digits.foldl (fun value digit => value * base + digitValue digit) 0

def charOfCode? (code : Nat) : Option Char :=
  if code.isValidChar then some (Char.ofNat code) else none

/-- The character of hexadecimal digits. -/
def charOfHex? (digits : List Char) : Option Char :=
  if digits.isEmpty then none else charOfCode? (numeralValue 16 digits)

namespace Flags

/-- A set of characters as the flags have it: closed under case if letters stand for both cases, and turned
into its complement if it is negated. A complement is only taken among the characters of all scripts. -/
def closed? (flags : Flags) (negated : Bool) (set : CharSet) : Option CharSet :=
  let set := if flags.anyCase then set.foldCase flags.allScripts else set
  if negated then
    if flags.allScripts then some set.negate else none
  else some set

/-- The set that a character stands for. -/
def charSet (flags : Flags) (char : Char) : CharSet :=
  if flags.anyCase then (CharSet.ofChar char).foldCase flags.allScripts else .ofChar char

/-- One of the sets of a single letter; the capital letter stands for the complement. -/
def letterSet? (flags : Flags) (letter : Char) : Option CharSet :=
  let ascii (name : String) : CharSet := (asciiSet? name).getD .empty
  let set := match letter.toLower, flags.allScripts with
    | 'd', true => decimals
    | 'd', false => ascii "digit"
    | 's', true => blanks
    | 's', false => ascii "space"
    | _, true => wordChars
    | _, false => ascii "word"
  if letter.isUpper then
    if flags.allScripts then some set.negate else none
  else some set

/-- Cuts characters at the first occurrence of a separator. -/
def cut? (separator : List Char) : List Char → Option (List Char × List Char)
  | [] => none
  | char :: chars =>
    if separator.isPrefixOf (char :: chars) then some ([], (char :: chars).drop separator.length)
    else (cut? separator chars).map fun (before, after) => (char :: before, after)

/-- The set of a property. It may be given as a name or as a property and its value, equal or not. -/
def propertySet? (flags : Flags) (negated : Bool) (name : List Char) : Option CharSet :=
  if flags.allScripts then
    match cut? ['!', '='] name, (cut? [':'] name).or (cut? ['='] name) with
    | some (property, value), _ => (valueSet? property value).bind (flags.closed? !negated)
    | none, some (property, value) => (valueSet? property value).bind (flags.closed? negated)
    | none, none => (namedSet? name).bind (flags.closed? negated)
  else none

/-- The name between braces, and what follows. -/
def braced? (flags : Flags) (chars : List Char) : Option (List Char × List Char) :=
  match flags.gather (· ≠ '\x7d') chars.length false chars with
  | (name, '\x7d' :: rest) => some (name, rest)
  | _ => none

def property? (flags : Flags) (negated : Bool) (chars : List Char) : Option (Atom × List Char) :=
  match flags.skip chars with
  | '\x7b' :: chars => do
    let (name, rest) ← flags.braced? chars
    pure (.set (← flags.propertySet? negated name), rest)
  | char :: chars =>
    if char = '\\' ∨ !flags.allScripts then none
    else do
      let set ← (namedSet? [char]).bind (flags.closed? negated)
      pure (.set set, flags.skip chars)
  | [] => none

/-- A character by its code point, in braces or with a fixed number of digits. Among bytes the two digits of
a byte must stay within ASCII. -/
def hex? (flags : Flags) (length : Nat) (chars : List Char) : Option (Atom × List Char) :=
  match flags.skip chars with
  | '\x7b' :: chars => do
    let (digits, rest) ← flags.braced? chars
    if digits.all isHexDigit then pure (.char (← charOfHex? digits), flags.skip rest) else none
  | chars => do
    let (digits, rest) := flags.gather isHexDigit length false chars
    if digits.length = length then
      let char ← charOfHex? digits
      if length = 2 ∧ !flags.allScripts ∧ 0x80 ≤ char.toNat then none else pure (.char char, rest)
    else none

/-- A border of a word, of a kind that may be named in braces. What stands in the braces is left for a
repetition if it cannot be such a name. -/
def wordBorder? (flags : Flags) (chars : List Char) : Option (Atom × List Char) :=
  let anchor (kind : WordAnchor) : Atom := .anchor (.word kind flags.allScripts)
  let isNameChar (char : Char) : Bool := char.isAlpha || char = '-'
  match chars with
  | '\x7b' :: inner =>
    match flags.skip inner with
    | [] => none
    | first :: _ =>
      if isNameChar first then
        match flags.gather isNameChar inner.length false inner with
        | (name, '\x7d' :: rest) =>
          match String.ofList name with
          | "start" => some (anchor .start, rest)
          | "end" => some (anchor .stop, rest)
          | "start-half" => some (anchor .startHalf, rest)
          | "end-half" => some (anchor .stopHalf, rest)
          | _ => none
        | _ => none
      else some (anchor .border, chars)
  | _ => some (anchor .border, chars)

/-- Reads what follows a backslash. -/
def escape? (flags : Flags) : List Char → Option (Atom × List Char)
  | [] => none
  | char :: chars =>
    match char with
    | 'x' => flags.hex? 2 chars
    | 'u' => flags.hex? 4 chars
    | 'U' => flags.hex? 8 chars
    | 'p' => flags.property? false chars
    | 'P' => flags.property? true chars
    | 'd' | 's' | 'w' | 'D' | 'S' | 'W' => (flags.letterSet? char).map fun set => (.set set, chars)
    | 'a' => some (.char '\x07', chars)
    | 'f' => some (.char '\x0C', chars)
    | 't' => some (.char '\t', chars)
    | 'n' => some (.char '\n', chars)
    | 'r' => some (.char '\r', chars)
    | 'v' => some (.char '\x0B', chars)
    | 'A' => some (.anchor .textStart, chars)
    | 'z' => some (.anchor .textEnd, chars)
    | 'b' => flags.wordBorder? chars
    | 'B' => some (.anchor (.word .noBorder flags.allScripts), chars)
    | '<' => some (.anchor (.word .start flags.allScripts), chars)
    | '>' => some (.anchor (.word .stop flags.allScripts), chars)
    | _ => if char.toNat < 0x80 ∧ !char.isAlphanum then some (.char char, chars) else none

end Flags

end FormEditor.Pattern
