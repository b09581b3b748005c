import FormEditor.Pattern.CharSet
import FormEditor.Unicode.Category

/-! A pattern describes texts: characters of a set, one after the other, one or the other, and repeated. An
anchor takes no character and holds or not at a place, by the characters on both sides of it. -/

namespace FormEditor

namespace Pattern

/-- The characters before and after a place of a text. -/
structure Place where
  before : Option Char
  after : Option Char

inductive WordAnchor where
  | border
  | noBorder
  | start
  | stop
  | startHalf
  | stopHalf
  deriving DecidableEq

inductive Anchor where
  | textStart
  | textEnd
  /-- The start of a line. A line ends with a line feed or, if carriage returns count, with either of the
  two characters or with both in a row. -/
  | lineStart (returns : Bool)
  | lineEnd (returns : Bool)
  /-- A place at a word, by the words of all scripts or those of ASCII. -/
  | word (anchor : WordAnchor) (allScripts : Bool)
  deriving DecidableEq

/-- Whether a character is a part of a word in ASCII. -/
def isAsciiWordChar (char : Char) : Bool :=
  char.isAlphanum || char = '_'

def inWord (allScripts : Bool) (char : Option Char) : Bool :=
  char.any fun char =>
    if allScripts then Unicode.isWordChar char.toNat else isAsciiWordChar char

def WordAnchor.holds (anchor : WordAnchor) (wordBefore wordAfter : Bool) : Bool :=
  match anchor with
  | .border => wordBefore != wordAfter
  | .noBorder => wordBefore == wordAfter
  | .start => !wordBefore && wordAfter
  | .stop => wordBefore && !wordAfter
  | .startHalf => !wordBefore
  | .stopHalf => !wordAfter

def Anchor.holds (anchor : Anchor) (place : Place) : Bool :=
  match anchor with
  | .textStart => place.before.isNone
  | .textEnd => place.after.isNone
  | .lineStart false => place.before.all (· == '\n')
  | .lineEnd false => place.after.all (· == '\n')
  | .lineStart true =>
    place.before.all fun char => char == '\n' || (char == '\r' && place.after != some '\n')
  | .lineEnd true =>
    place.after.all fun char => char == '\r' || (char == '\n' && place.before != some '\r')
  | .word anchor allScripts =>
    anchor.holds (inWord allScripts place.before) (inWord allScripts place.after)

end Pattern

inductive Pattern where
  | empty
  | one (set : CharSet)
  | at (anchor : Pattern.Anchor)
  | seq (first second : Pattern)
  | alt (left right : Pattern)
  | rep (body : Pattern) (least : Nat) (most : Option Nat)
  deriving DecidableEq

namespace Pattern

/-- Patterns one after the other. -/
def sequence : List Pattern → Pattern
  | [] => .empty
  | [last] => last
  | first :: rest => .seq first (sequence rest)

/-- One of several patterns. -/
def choice : List Pattern → Pattern
  | [] => .empty
  | [last] => last
  | first :: rest => .alt first (choice rest)

/-- Whether a pattern takes no character at all. -/
def takesNothing : Pattern → Bool
  | .empty | .at _ => true
  | .one _ => false
  | .seq left right | .alt left right => left.takesNothing && right.takesNothing
  | .rep body _ most => body.takesNothing || most == some 0

/-- A repetition. What takes no character need not be repeated. -/
def repeated (body : Pattern) (least : Nat) (most : Option Nat) : Pattern :=
  if body.takesNothing then .rep body (min least 1) (some (min (most.getD 1) 1))
  else .rep body least most

end Pattern

end FormEditor
