import FormEditor.Text.Blank

/-! Flags change what the pattern that follows means, up to the end of the group they stand in. -/

namespace FormEditor.Pattern

structure Flags where
  /-- Letters stand for both cases. -/
  anyCase : Bool
  /-- The anchors of the text are those of each line. -/
  manyLines : Bool
  /-- The dot also stands for the end of a line. -/
  dotAll : Bool
  /-- A carriage return ends a line too. -/
  returns : Bool
  /-- Classes and cases are those of all scripts. -/
  allScripts : Bool
  /-- Blanks and comments may stand between the parts of a pattern. -/
  spaced : Bool
  deriving DecidableEq

namespace Flags

def initial : Flags where
  anyCase := false
  manyLines := false
  dotAll := false
  returns := false
  allScripts := true
  spaced := false

/-- Sets the flag of a letter. Whether a repetition takes as much as it can makes no difference to what
matches. -/
def set? (flags : Flags) (value : Bool) : Char → Option Flags
  | 'i' => some { flags with anyCase := value }
  | 'm' => some { flags with manyLines := value }
  | 's' => some { flags with dotAll := value }
  | 'R' => some { flags with returns := value }
  | 'u' => some { flags with allScripts := value }
  | 'x' => some { flags with spaced := value }
  | 'U' => some flags
  | _ => none

/-- Reads flags up to a colon or a closing parenthesis. No letter may be given twice, nor the dash after
which flags are taken away, and a letter must follow that dash. -/
def read? (flags : Flags) (seen : List Char) : List Char → Option (Flags × List Char × List Char)
  | [] => none
  | char :: chars =>
    if char = ':' ∨ char = ')' then
      if seen.head? = some '-' then none else some (flags, seen, char :: chars)
    else if seen.contains char then none
    else if char = '-' then read? flags ('-' :: seen) chars
    else
      match flags.set? (!seen.contains '-') char with
      | some flags => read? flags (char :: seen) chars
      | none => none

/-- The characters after the blanks and comments at the beginning, within a comment or not. -/
def afterBlanks (comment : Bool) : List Char → List Char
  | [] => []
  | char :: chars =>
    if comment then afterBlanks (char ≠ '\n') chars
    else if Text.isBlank char then afterBlanks false chars
    else if char = '#' then afterBlanks true chars
    else char :: chars

/-- Passes over blanks and comments where the flags allow them. -/
def skip (flags : Flags) (chars : List Char) : List Char :=
  if flags.spaced then afterBlanks false chars else chars

/-- Takes characters of a kind, at most so many, with the blanks and comments between them. -/
def gather (flags : Flags) (keep : Char → Bool) (limit : Nat) (comment : Bool) :
    List Char → List Char × List Char
  | [] => ([], [])
  | char :: chars =>
    if comment then gather flags keep limit (char ≠ '\n') chars
    else if flags.spaced && Text.isBlank char then gather flags keep limit false chars
    else if flags.spaced && char = '#' then gather flags keep limit true chars
    else
      match limit with
      | limit + 1 =>
        if keep char then
          let (taken, rest) := gather flags keep limit false chars
          (char :: taken, rest)
        else ([], char :: chars)
      | 0 => ([], char :: chars)

end Flags

end FormEditor.Pattern
