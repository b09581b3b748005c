import FormEditor.Pattern.Basic

/-! A pattern is run on the bytes of a text, read backwards or forwards, and must not take more room than there
is. Its size is that of the states for the bytes in reverse: a state and the transitions out of it for every
character, and every repetition written out. -/

namespace FormEditor.Pattern

/-- The first and the last byte of a run of bytes. -/
abbrev ByteRun := Nat × Nat

/-- The runs of byte sequences for the code points from one to another, when so many continuation bytes with
six bits each follow the first byte. -/
def byteRuns (lead : Nat) : (following first last : Nat) → List (List ByteRun)
  | 0, first, last => [[(lead + first, lead + last)]]
  | following + 1, first, last =>
    let block := Nat.pow 64 (following + 1)
    let top := first / block
    let bottom := last / block
    if top = bottom then
      (byteRuns 0x80 following (first % block) (last % block)).map ((lead + top, lead + top) :: ·)
    else
      let opening :=
        if first % block = 0 then []
        else (byteRuns 0x80 following (first % block) (block - 1)).map ((lead + top, lead + top) :: ·)
      let closing :=
        if last % block = block - 1 then []
        else (byteRuns 0x80 following 0 (last % block)).map ((lead + bottom, lead + bottom) :: ·)
      let from' := if first % block = 0 then top else top + 1
      let upTo := if last % block = block - 1 then bottom + 1 else bottom
      let middle :=
        if from' < upTo then
          [(lead + from', lead + upTo - 1) :: List.replicate (following + 1) (0x80, 0xBF)]
        else []
      opening ++ middle ++ closing

/-- The code points that take so many bytes after the first one, with what marks the first byte. -/
def encodings : List (Nat × Nat × Nat × Nat) :=
  [(0, 0, 0x7F, 0), (1, 0x80, 0x7FF, 0xC0), (2, 0x800, 0xFFFF, 0xE0), (3, 0x10000, 0x10FFFF, 0xF0)]

def encodedRun (run : Nat × Nat) : List (List ByteRun) :=
  encodings.flatMap fun (following, first, last, lead) =>
    if max first run.1 ≤ min last run.2 then
      byteRuns lead following (max first run.1) (min last run.2)
    else []

def commonLength : List ByteRun → List ByteRun → Nat
  | left :: lefts, right :: rights => if left = right then commonLength lefts rights + 1 else 0
  | _, _ => 0

/-- The number of byte runs when each sequence shares its beginning with the one before it. -/
def sharedLength (before : List ByteRun) : List (List ByteRun) → Nat
  | [] => 0
  | sequence :: sequences =>
    sequence.length - commonLength before sequence + sharedLength sequence sequences

def stateSize : Nat := 32

def charSetSize (set : CharSet) : Nat :=
  match set.runs with
  | [(first, last)] =>
    if first = last then stateSize * (Char.ofNat first).utf8Size else sizeOfRuns
  | _ => sizeOfRuns
where
  sizeOfRuns : Nat :=
    if set.isAscii then 2 * stateSize + 8 * set.runs.length
    else
      let sequences := set.runs.flatMap encodedRun
      2 * stateSize + stateSize * sharedLength [] sequences + 4 * sequences.length

def size : Pattern → Nat
  | .empty | .at _ => stateSize
  | .one set => charSetSize set
  | .seq first second => first.size + second.size
  | .alt left right => left.size + right.size + stateSize
  | .rep body least none => body.size * max least 1 + stateSize
  | .rep body least (some most) =>
    body.size * most + (most - least) * (stateSize + 8) + stateSize

def maxSize : Nat := 10 * 0x100000

end FormEditor.Pattern
