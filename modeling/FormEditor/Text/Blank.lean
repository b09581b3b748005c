/-! Which characters are blank, and texts without the blanks around them. -/

namespace FormEditor.Text

/-- Whether a character is white space in any script. -/
def isBlank (char : Char) : Bool :=
  let code := char.toNat
  (0x9 ≤ code && code ≤ 0xD) || code == 0x20 || code == 0x85 || code == 0xA0 || code == 0x1680
    || (0x2000 ≤ code && code ≤ 0x200A) || code == 0x2028 || code == 0x2029 || code == 0x202F
    || code == 0x205F || code == 0x3000

/-- The characters from the first to the last one that is not blank. -/
def trimChars (chars : List Char) : List Char :=
  ((chars.dropWhile isBlank).reverse.dropWhile isBlank).reverse

def trim (text : String) : String :=
  String.ofList (trimChars text.toList)

/-- Cuts a text at every occurrence of a character. -/
def splitAt (separator : Char) : List Char → List (List Char)
  | [] => [[]]
  | char :: chars =>
    if char = separator then [] :: splitAt separator chars
    else match splitAt separator chars with
      | [] => [[char]]
      | part :: parts => (char :: part) :: parts

/-- The lines of a text without the blanks around them; blank lines are left out. -/
def trimmedLines (text : String) : List String :=
  ((splitAt '\n' text.toList).map trimChars).filterMap fun line =>
    if line.isEmpty then none else some (String.ofList line)

/-- Whether one text stands somewhere in another. -/
def occursIn (part : List Char) : List Char → Bool
  | [] => part.isEmpty
  | char :: chars => part.isPrefixOf (char :: chars) || occursIn part chars

end FormEditor.Text
