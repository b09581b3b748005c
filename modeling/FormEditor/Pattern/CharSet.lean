import FormEditor.Unicode.CaseTables

/-! A set of code points is given by its borders, the increasing list of the code points at which membership
changes. A Boolean operation on two sets merges their borders and keeps those at which its own value changes. -/

namespace FormEditor

structure CharSet where
  borders : List Nat
  deriving DecidableEq

namespace CharSet

/-- Whether a code point is inside, when the code points below all borders are inside or not as given. -/
def insideAfter (inside : Bool) : List Nat → Nat → Bool
  | [], _ => inside
  | border :: borders, code => if code < border then inside else insideAfter (!inside) borders code

def containsCode (set : CharSet) (code : Nat) : Bool :=
  insideAfter false set.borders code

def contains (set : CharSet) (char : Char) : Bool :=
  set.containsCode char.toNat

/-- The borders of a Boolean operation on two sets, from a code point on where the sets are entered or not as
given. -/
def mergeBorders (operation : Bool → Bool → Bool) (inLeft inRight : Bool) :
    List Nat → List Nat → List Nat
  | [], [] => []
  | border :: left, [] =>
    let rest := mergeBorders operation (!inLeft) inRight left []
    if operation (!inLeft) inRight = operation inLeft inRight then rest else border :: rest
  | [], border :: right =>
    let rest := mergeBorders operation inLeft (!inRight) [] right
    if operation inLeft (!inRight) = operation inLeft inRight then rest else border :: rest
  | first :: left, second :: right =>
    if first < second then
      let rest := mergeBorders operation (!inLeft) inRight left (second :: right)
      if operation (!inLeft) inRight = operation inLeft inRight then rest else first :: rest
    else if second < first then
      let rest := mergeBorders operation inLeft (!inRight) (first :: left) right
      if operation inLeft (!inRight) = operation inLeft inRight then rest else second :: rest
    else
      let rest := mergeBorders operation (!inLeft) (!inRight) left right
      if operation (!inLeft) (!inRight) = operation inLeft inRight then rest else first :: rest
  termination_by left right => left.length + right.length

def merge (operation : Bool → Bool → Bool) (left right : CharSet) : CharSet :=
  ⟨mergeBorders operation false false left.borders right.borders⟩

def empty : CharSet :=
  ⟨[]⟩

/-- Every character: the code points without the surrogates. -/
def all : CharSet :=
  ⟨[0, 0xD800, 0xE000, 0x110000]⟩

def ofCodes (first last : Nat) : CharSet :=
  ⟨[first, last + 1]⟩

def ofRange (first last : Char) : CharSet :=
  ofCodes first.toNat last.toNat

def ofChar (char : Char) : CharSet :=
  ofRange char char

def union (left right : CharSet) : CharSet :=
  left.merge (· || ·) right

def inter (left right : CharSet) : CharSet :=
  left.merge (· && ·) right

def diff (left right : CharSet) : CharSet :=
  left.merge (fun inLeft inRight => inLeft && !inRight) right

def symmDiff (left right : CharSet) : CharSet :=
  left.merge Bool.xor right

def negate (set : CharSet) : CharSet :=
  all.diff set

def unions (sets : List CharSet) : CharSet :=
  sets.foldl union empty

def ofRanges (ranges : List (Char × Char)) : CharSet :=
  unions (ranges.map fun (first, last) => ofRange first last)

def ofChars (chars : List Char) : CharSet :=
  unions (chars.map ofChar)

/-- Takes out the code points at which a run ends and the next one begins. -/
def joinRuns : List Nat → List Nat
  | last :: first :: borders =>
    if last = first then joinRuns borders else last :: joinRuns (first :: borders)
  | borders => borders

/-- The code points of a run of a table. -/
def runCodes (first last step : Nat) : List Nat :=
  (List.range ((last - first) / step + 1)).map (first + · * step)

def ofTable (table : Unicode.Table) : CharSet :=
  ⟨joinRuns (table.flatMap fun (first, last, step) =>
    if step = 1 then [first, last + 1]
    else (runCodes first last step).flatMap fun code => [code, code + 1])⟩

def ofTables (tables : List Unicode.Table) : CharSet :=
  unions (tables.map ofTable)

/-- The runs of a set, each with its first and its last code point. -/
def runs (set : CharSet) : List (Nat × Nat) :=
  go set.borders
where
  go : List Nat → List (Nat × Nat)
    | first :: next :: borders => (first, next - 1) :: go borders
    | _ => []

def isAscii (set : CharSet) : Bool :=
  set.borders.all (· ≤ 0x80)

/-- The code points that differ from their simple case folding, with that folding. -/
def foldings : List (Nat × Nat) :=
  Unicode.foldingTable.flatMap fun (first, last, step, distance) =>
    (runCodes first last step).map fun code => (code, (code + distance : Int).toNat)

/-- Adds the characters that have the same folding as one of the set. -/
def closeUnder (foldings : List (Nat × Nat)) (set : CharSet) : CharSet :=
  let folded := foldings.filterMap fun (code, folding) =>
    if set.containsCode code || set.containsCode folding then some folding else none
  let added := folded ++ foldings.filterMap fun (code, folding) =>
    if folded.contains folding then some code else none
  unions (set :: added.map fun code => ofCodes code code)

/-- Adds the characters that differ from one of the set in case at most; only the ASCII letters have a case
unless the set is one of all scripts. -/
def foldCase (allScripts : Bool) (set : CharSet) : CharSet :=
  set.closeUnder (if allScripts then foldings else foldings.filter (·.1 < 0x80))

end CharSet

end FormEditor
