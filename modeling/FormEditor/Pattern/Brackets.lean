import FormEditor.Pattern.Escape

/-! A set in brackets lists characters, ranges, classes and other sets in brackets. Two such lists may be
combined by an operation, and the operations apply from left to right. -/

namespace FormEditor.Pattern

inductive SetOperation where
  | intersection
  | difference
  | symmetricDifference
  deriving DecidableEq

def SetOperation.apply : SetOperation → CharSet → CharSet → CharSet
  | .intersection, left, right => left.inter right
  | .difference, left, right => left.diff right
  | .symmetricDifference, left, right => left.symmDiff right

/-- How far a set in brackets has been read: a bracket may close it right at the beginning as little as a
dash there makes a range. -/
inductive Progress where
  | start
  | dashes
  | inside
  deriving DecidableEq

/-- A set that is being read: the operations so far and the list after the last of them. -/
structure OpenSet where
  negated : Bool
  progress : Progress
  left : Option (CharSet × SetOperation)
  listed : CharSet

namespace OpenSet

def add (frame : OpenSet) (set : CharSet) : OpenSet :=
  { frame with listed := frame.listed.union set, progress := .inside }

/-- The value of what was read. The operands of an operation are closed under case first. -/
def value (flags : Flags) (frame : OpenSet) : CharSet :=
  let close (set : CharSet) : CharSet := if flags.anyCase then set.foldCase flags.allScripts else set
  match frame.left with
  | none => frame.listed
  | some (left, operation) => operation.apply (close left) (close frame.listed)

def operate (flags : Flags) (operation : SetOperation) (frame : OpenSet) : OpenSet :=
  { frame with left := some (frame.value flags, operation), listed := .empty, progress := .inside }

/-- Opens a set after its bracket. -/
def begin (flags : Flags) (chars : List Char) : OpenSet × List Char :=
  match flags.skip chars with
  | '^' :: chars => (⟨true, .start, none, .empty⟩, chars)
  | chars => (⟨false, .start, none, .empty⟩, chars)

end OpenSet

namespace Flags

/-- A class of ASCII characters in a bracket and colons: whether it is negated, its set and what follows. -/
def asciiClass? : List Char → Option (Bool × CharSet × List Char)
  | ':' :: chars => do
    let (negated, chars) := match chars with
      | '^' :: chars => (true, chars)
      | chars => (false, chars)
    match chars.span (· ≠ ':') with
    | (name, ':' :: ']' :: rest) => do pure (negated, ← asciiSet? (String.ofList name), rest)
    | _ => none
  | _ => none

/-- A member of a list: a character or an escape. -/
def member? (flags : Flags) : List Char → Option (Atom × List Char)
  | [] => none
  | '\\' :: chars => flags.escape? chars
  | char :: chars => some (.char char, chars)

/-- Whether what follows a dash makes it a character of its own: the closing bracket or another dash. -/
def endsRange (flags : Flags) (chars : List Char) : Bool :=
  let next :=
    if flags.spaced then
      match chars.dropWhile Text.isBlank with
      | '#' :: chars => chars.dropWhile Text.isBlank
      | chars => chars
    else chars
  next.head? = some ']' || next.head? = some '-'

/-- The end of a range. Unless the characters are those of all scripts, only ASCII may be listed. -/
def listable (flags : Flags) (char : Char) : Bool :=
  flags.allScripts || char.toNat < 0x80

/-- Reads a member or a range. -/
def range? (flags : Flags) (chars : List Char) : Option (CharSet × List Char) := do
  let (first, rest) ← flags.member? chars
  match flags.skip rest with
  | [] => none
  | '-' :: after =>
    if flags.endsRange after then single first ('-' :: after)
    else
      match first, ← flags.member? (flags.skip after) with
      | .char low, (.char high, rest) =>
        if low ≤ high ∧ flags.listable low ∧ flags.listable high then some (.ofRange low high, rest)
        else none
      | _, _ => none
  | rest => single first rest
where
  single (atom : Atom) (rest : List Char) : Option (CharSet × List Char) :=
    match atom with
    | .char char => if flags.listable char then some (.ofChar char, rest) else none
    | .set set => some (set, rest)
    | .anchor _ => none

/-- Reads sets in brackets up to the one that closes the outermost of them, which is the last of the sets
that are open around the innermost one. Returns the set and how deep the brackets were nested. -/
def brackets? (flags : Flags) (fuel : Nat) (deepest : Nat) (frame : OpenSet) (outer : List OpenSet)
    (chars : List Char) : Option (CharSet × Nat × List Char) :=
  match fuel with
  | 0 => none
  | fuel + 1 =>
    match flags.skip chars with
    | [] => none
    | char :: rest =>
      if char = '-' ∧ frame.progress ≠ .inside then
        flags.brackets? fuel deepest { frame.add (.ofChar '-') with progress := .dashes } outer rest
      else if char = ']' ∧ frame.progress = .start then
        flags.brackets? fuel deepest (frame.add (.ofChar ']')) outer rest
      else
        match char, rest with
        | '[', _ =>
          match asciiClass? rest with
          | some (negated, set, rest) => do
            flags.brackets? fuel deepest (frame.add (← flags.closed? negated set)) outer rest
          | none =>
            let (inner, rest) := OpenSet.begin flags rest
            flags.brackets? fuel (max deepest (outer.length + 2)) inner (frame :: outer) rest
        | ']', _ => do
          let set ← flags.closed? frame.negated (frame.value flags)
          match outer with
          | [] => some (set, deepest, rest)
          | frame :: outer => flags.brackets? fuel deepest (frame.add set) outer rest
        | '&', '&' :: rest =>
          flags.brackets? fuel deepest (frame.operate flags .intersection) outer rest
        | '-', '-' :: rest =>
          flags.brackets? fuel deepest (frame.operate flags .difference) outer rest
        | '~', '~' :: rest =>
          flags.brackets? fuel deepest (frame.operate flags .symmetricDifference) outer rest
        | _, _ => do
          let (set, rest) ← flags.range? (char :: rest)
          flags.brackets? fuel deepest (frame.add set) outer rest

/-- Reads a set after its opening bracket. -/
def bracketSet? (flags : Flags) (chars : List Char) : Option (CharSet × Nat × List Char) :=
  let (frame, rest) := OpenSet.begin flags chars
  flags.brackets? (chars.length + 1) 1 frame [] rest

end Flags

end FormEditor.Pattern
