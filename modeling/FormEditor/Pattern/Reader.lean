import FormEditor.Pattern.Brackets
import FormEditor.Pattern.Size

/-! The usual notation of patterns: characters, a dot, sets in brackets, escapes, anchors, groups in parentheses, bars between
alternatives, and repetitions after what they repeat. Groups set flags or have names; there are neither
references to groups nor conditions on what lies ahead or behind. What does not follow the notation, or makes
too large a pattern, is refused as a whole. -/

namespace FormEditor.Pattern

/-- A part of a pattern that was read: how deep its own parts are nested, and whether it may be repeated. -/
structure Part where
  pattern : Pattern
  depth : Nat
  repeatable : Bool

/-- A group that is being read: its alternatives and the parts of the last one, latest first, and the flags
outside. -/
structure OpenGroup where
  alternatives : List Part
  parts : List Part
  outside : Flags

namespace OpenGroup

def begin (outside : Flags) : OpenGroup :=
  ⟨[], [], outside⟩

def add (group : OpenGroup) (pattern : Pattern) (depth : Nat) : OpenGroup :=
  { group with parts := ⟨pattern, depth, true⟩ :: group.parts }

/-- Joins parts that stand side by side; more than one makes a level of its own. -/
def join (make : List Pattern → Pattern) (parts : List Part) : Part :=
  let depth := (parts.map (·.depth)).foldl max 0
  ⟨make (parts.reverse.map (·.pattern)), if parts.length ≤ 1 then depth else depth + 1, true⟩

/-- The parts of the last alternative, one after the other. -/
def last (group : OpenGroup) : Part :=
  join sequence group.parts

def bar (group : OpenGroup) : OpenGroup :=
  { group with alternatives := group.last :: group.alternatives, parts := [] }

def close (group : OpenGroup) : Part :=
  join choice (group.last :: group.alternatives)

/-- Repeats the last part. -/
def repeatLast? (group : OpenGroup) (least : Nat) (most : Option Nat) : Option OpenGroup :=
  match group.parts with
  | part :: parts =>
    if part.repeatable then some { group with parts := ⟨part.pattern.repeated least most, part.depth + 1, true⟩ :: parts }
    else none
  | [] => none

end OpenGroup

/-- How far a pattern has been read. -/
structure Progressed where
  flags : Flags
  group : OpenGroup
  outer : List OpenGroup
  names : List String

namespace Flags

/-- The anchors and sets of an atom under the flags. -/
def atomPattern (flags : Flags) : Atom → Pattern
  | .char char => .one (flags.charSet char)
  | .set set => .one set
  | .anchor anchor => .at anchor

/-- What the dot stands for. Bytes that are not characters are not matched. -/
def dot? (flags : Flags) : Option Pattern :=
  if !flags.allScripts then none
  else if flags.dotAll then some (.one .all)
  else if flags.returns then some (.one (CharSet.ofChars ['\n', '\r']).negate)
  else some (.one (CharSet.ofChar '\n').negate)

def caret (flags : Flags) : Anchor :=
  if flags.manyLines then .lineStart flags.returns else .textStart

def dollar (flags : Flags) : Anchor :=
  if flags.manyLines then .lineEnd flags.returns else .textEnd

/-- The largest number of repetitions that can be written. -/
def maxCount : Nat := 0xFFFFFFFF

/-- A decimal number, with blanks on both sides of it. -/
def count? (flags : Flags) (chars : List Char) : Option (Nat × List Char) :=
  let (digits, rest) :=
    flags.gather Char.isDigit chars.length false ((flags.skip chars).dropWhile Text.isBlank)
  let value := numeralValue 10 digits
  if digits.isEmpty ∨ maxCount < value then none else some (value, flags.skip (rest.dropWhile Text.isBlank))

/-- The bounds of a repetition after its brace. -/
def bounds? (flags : Flags) (chars : List Char) : Option (Nat × Option Nat × List Char) := do
  let (least, rest) ← flags.count? chars
  match rest with
  | '\x7d' :: rest => some (least, some least, rest)
  | ',' :: rest =>
    match flags.skip rest with
    | '\x7d' :: rest => some (least, none, rest)
    | rest =>
      match ← flags.count? rest with
      | (most, '\x7d' :: rest) => if least ≤ most then some (least, some most, rest) else none
      | _ => none
  | _ => none

end Flags

/-- A question mark after a repetition makes no difference to what matches. -/
def afterLazy : List Char → List Char
  | '?' :: chars => chars
  | chars => chars

def isNameStart (char : Char) : Bool :=
  char = '_' || Unicode.isAlphabetic char.toNat

def isNameChar (char : Char) : Bool :=
  isNameStart char || Unicode.isNumeric char.toNat || char = '.' || char = '[' || char = ']'

/-- The name of a group, up to a closing angle bracket. -/
def groupName? (chars : List Char) : Option (String × List Char) :=
  match chars.span (· ≠ '>') with
  | (first :: name, '>' :: rest) =>
    if isNameStart first ∧ name.all isNameChar then some (String.ofList (first :: name), rest) else none
  | _ => none

namespace Progressed

def initial : Progressed :=
  ⟨.initial, .begin .initial, [], []⟩

def add (state : Progressed) (pattern : Pattern) (depth : Nat) : Progressed :=
  { state with group := state.group.add pattern depth }

def enter (state : Progressed) (inside : Flags) : Progressed :=
  { state with flags := inside, group := .begin state.flags, outer := state.group :: state.outer }

/-- A group after its opening parenthesis, or flags for the rest of the group that they stand in. -/
def openGroup? (state : Progressed) (chars : List Char) : Option (Progressed × List Char) :=
  match chars with
  | '?' :: '=' :: _ | '?' :: '!' :: _ | '?' :: '<' :: '=' :: _ | '?' :: '<' :: '!' :: _ => none
  | '?' :: 'P' :: '<' :: chars | '?' :: '<' :: chars => do
    let (name, rest) ← groupName? chars
    if state.names.contains name then none
    else some ({ state.enter state.flags with names := name :: state.names }, rest)
  | '?' :: chars =>
    match state.flags.read? [] chars with
    | some (flags, _, ':' :: rest) => some (state.enter flags, rest)
    | some (flags, _ :: _, ')' :: rest) =>
      let parts := ⟨.empty, 0, false⟩ :: state.group.parts
      some ({ state with flags, group := { state.group with parts } }, rest)
    | _ => none
  | chars => some (state.enter state.flags, chars)

def closeGroup? (state : Progressed) : Option Progressed :=
  match state.outer with
  | [] => none
  | group :: outer =>
    let inner := state.group.close
    some { state with
      flags := state.group.outside
      group := group.add inner.pattern (inner.depth + 1)
      outer }

def repeatLast? (state : Progressed) (least : Nat) (most : Option Nat) : Option Progressed :=
  (state.group.repeatLast? least most).map fun group => { state with group }

/-- Reads the next part, whose first character is given. -/
def next? (state : Progressed) (char : Char) (rest : List Char) : Option (Progressed × List Char) :=
  match char with
  | '(' => state.openGroup? (state.flags.skip rest)
  | ')' => state.closeGroup?.map fun state => (state, rest)
  | '|' => some ({ state with group := state.group.bar }, rest)
  | '[' => do
    let (set, depth, rest) ← state.flags.bracketSet? rest
    some (state.add (.one set) depth, rest)
  | '?' => (state.repeatLast? 0 (some 1)).map fun state => (state, afterLazy rest)
  | '*' => (state.repeatLast? 0 none).map fun state => (state, afterLazy rest)
  | '+' => (state.repeatLast? 1 none).map fun state => (state, afterLazy rest)
  | '\x7b' => do
    let (least, most, rest) ← state.flags.bounds? rest
    (state.repeatLast? least most).map fun state => (state, afterLazy (state.flags.skip rest))
  | '\\' => do
    let (atom, rest) ← state.flags.escape? rest
    some (state.add (state.flags.atomPattern atom) 0, rest)
  | '.' => state.flags.dot?.map fun dot => (state.add dot 0, rest)
  | '^' => some (state.add (.at state.flags.caret) 0, rest)
  | '$' => some (state.add (.at state.flags.dollar) 0, rest)
  | _ => some (state.add (.one (state.flags.charSet char)) 0, rest)

/-- How deep the parts of a pattern may be nested. -/
def maxDepth : Nat := 250

/-- Reads parts to the end. Every part takes a character at least. -/
def read? (fuel : Nat) (state : Progressed) (chars : List Char) : Option Pattern :=
  match fuel, state.flags.skip chars with
  | _, [] =>
    if state.outer.isEmpty ∧ state.group.close.depth ≤ maxDepth then some state.group.close.pattern
    else none
  | 0, _ => none
  | fuel + 1, char :: rest => do
    let (state, rest) ← state.next? char rest
    state.read? fuel rest

end Progressed

/-- The pattern that a text denotes, if it is one. -/
def ofText? (text : String) : Option Pattern :=
  match Progressed.initial.read? text.length text.toList with
  | some pattern => if pattern.size ≤ maxSize then some pattern else none
  | none => none

end FormEditor.Pattern
