import FormEditor.Pattern.Basic

/-! A text is matched by moving marks through a pattern. A character of the pattern is marked when a match has
just taken it, so all matches advance together, one character of the text at a time, and the marks are all
that has to be remembered. -/

namespace FormEditor.Pattern

/-- A pattern with its repetitions written out and marks on its characters. -/
inductive Marked where
  | empty
  | one (marked : Bool) (set : CharSet)
  | at (anchor : Anchor)
  | seq (first second : Marked)
  | alt (left right : Marked)
  /-- One or more times in a row. -/
  | plus (body : Marked)

namespace Marked

/-- So many copies of a pattern in a row, halved until one is left. -/
def copies (count : Nat) (body : Marked) : Marked :=
  if count = 0 then .empty
  else if count = 1 then body
  else .seq (copies (count / 2) body) (copies (count - count / 2) body)

def optional (body : Marked) : Marked :=
  .alt .empty body

/-- A pattern without any marks. -/
def ofPattern : Pattern → Marked
  | .empty => .empty
  | .one set => .one false set
  | .at anchor => .at anchor
  | .seq first second => .seq (ofPattern first) (ofPattern second)
  | .alt left right => .alt (ofPattern left) (ofPattern right)
  | .rep body least none =>
    if least = 0 then optional (.plus (ofPattern body))
    else .seq (copies (least - 1) (ofPattern body)) (.plus (ofPattern body))
  | .rep body least (some most) =>
    .seq (copies least (ofPattern body)) (copies (most - least) (optional (ofPattern body)))

/-- Whether the pattern can be passed at a place without taking a character. -/
def passes (place : Place) : Marked → Bool
  | .empty => true
  | .one _ _ => false
  | .at anchor => anchor.holds place
  | .seq first second => first.passes place && second.passes place
  | .alt left right => left.passes place || right.passes place
  | .plus body => body.passes place

/-- Whether a match that is under way is complete at a place. -/
def ends (place : Place) : Marked → Bool
  | .empty | .at _ => false
  | .one marked _ => marked
  | .seq first second => second.ends place || (second.passes place && first.ends place)
  | .alt left right => left.ends place || right.ends place
  | .plus body => body.ends place

/-- Takes one character of the text: the marks move on, and a match may begin here if it is entered. -/
def shift (place : Place) (char : Char) (entered : Bool) : Marked → Marked
  | .empty => .empty
  | .one _ set => .one (entered && set.contains char) set
  | .at anchor => .at anchor
  | .seq first second =>
    .seq (first.shift place char entered)
      (second.shift place char ((entered && first.passes place) || first.ends place))
  | .alt left right => .alt (left.shift place char entered) (right.shift place char entered)
  | .plus body => .plus (body.shift place char (entered || body.ends place))

/-- Whether a match ends at a place or later. A match may begin anywhere. -/
def found (pattern : Marked) (before : Option Char) : List Char → Bool
  | [] => pattern.passes ⟨before, none⟩ || pattern.ends ⟨before, none⟩
  | char :: chars =>
    let place : Place := ⟨before, some char⟩
    pattern.passes place || pattern.ends place
      || (pattern.shift place char true).found (some char) chars

end Marked

/-- Whether a part of a text matches. -/
def matchesIn (pattern : Pattern) (text : String) : Bool :=
  (Marked.ofPattern pattern).found none text.toList

end FormEditor.Pattern
