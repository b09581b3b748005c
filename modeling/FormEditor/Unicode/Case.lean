import FormEditor.Unicode.CaseTables
import FormEditor.Unicode.Category

/-! The lowercase of a text. The capital sigma is the one letter whose lowercase depends on the letters around it,
and the dotted capital I the one whose lowercase has two characters. -/

namespace FormEditor.Unicode

/-- Whether the first character that counts is a letter with a case. -/
def meetsCased (chars : List Char) : Bool :=
  match chars.dropWhile (fun char => isCaseIgnorable char.toNat) with
  | [] => false
  | char :: _ => isCased char.toNat

/-- The lowercase of characters that follow `before`, which is given backwards. -/
def lowercaseAfter (before : List Char) : List Char → List Char
  | [] => []
  | char :: chars =>
    let lower : List Char :=
      if char = 'Σ' then
        if meetsCased before && !meetsCased chars then ['ς'] else ['σ']
      else if char = 'İ' then ['i', '\u0307']
      else [(lowercaseTable.counterpart? char.toNat).elim char Char.ofNat]
    lower ++ lowercaseAfter (char :: before) chars

def lowercase (text : List Char) : List Char :=
  lowercaseAfter [] text

end FormEditor.Unicode
