/-! A set of code points is given by runs: the first, the last, and the distance from one to the next. The runs of
a table stand in the order of their code points, so looking up a small code point is quick. All tables are
those of Unicode 16. -/

namespace FormEditor.Unicode

abbrev Table := List (Nat × Nat × Nat)

/-- Runs of code points with the distance to their counterparts in the other case. -/
abbrev CaseTable := List (Nat × Nat × Nat × Int)

def Table.contains : Table → Nat → Bool
  | [], _ => false
  | (first, last, step) :: runs, code =>
    if code < first then false
    else (code ≤ last && (code - first) % step == 0) || Table.contains runs code

/-- The counterpart of a code point. -/
def CaseTable.counterpart? : CaseTable → Nat → Option Nat
  | [], _ => none
  | (first, last, step, distance) :: runs, code =>
    if code < first then none
    else if code ≤ last && (code - first) % step == 0 then some (code + distance).toNat
    else CaseTable.counterpart? runs code

end FormEditor.Unicode
