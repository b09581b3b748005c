import FormEditor.Unicode.Letters
import FormEditor.Unicode.Marks
import FormEditor.Unicode.Properties
import FormEditor.Unicode.Signs

/-! The classes of characters that are unions of general categories, up to a few code points. -/

namespace FormEditor.Unicode

/-- Whether a code point is in one of several tables. -/
def inAny (tables : List Table) (code : Nat) : Bool :=
  tables.any (·.contains code)

def letters : List Table :=
  [uppercaseLetters, lowercaseLetters, titlecaseLetters, modifierLetters, otherLetters]

def marks : List Table :=
  [nonspacingMarks, spacingMarks, enclosingMarks]

def numbers : List Table :=
  [decimalNumbers, letterNumbers, otherNumbers]

def punctuation : List Table :=
  [connectorPunctuation, dashPunctuation, openPunctuation, closePunctuation, initialPunctuation,
    finalPunctuation, otherPunctuation]

def symbols : List Table :=
  [mathSymbols, currencySymbols, modifierSymbols, otherSymbols]

def separators : List Table :=
  [spaceSeparators, lineSeparators, paragraphSeparators]

/-- Whether a code point stands for a character that can be shown: everything but separators, controls,
formats and code points without a meaning of their own. The blank is shown as itself. -/
def isPrintable (code : Nat) : Bool :=
  code == 0x20 || inAny (letters ++ marks ++ numbers ++ punctuation ++ symbols) code

/-- Whether a character is shown as a part of the one before it. -/
def extendsGrapheme (code : Nat) : Bool :=
  inAny [nonspacingMarks, enclosingMarks, otherExtenders] code

def isAlphabetic (code : Nat) : Bool :=
  inAny (letters ++ [letterNumbers, otherAlphabetic]) code

def isNumeric (code : Nat) : Bool :=
  inAny numbers code

def isLowercase (code : Nat) : Bool :=
  inAny [lowercaseLetters, otherLowercase] code

def isUppercase (code : Nat) : Bool :=
  inAny [uppercaseLetters, otherUppercase] code

def isCased (code : Nat) : Bool :=
  isLowercase code || isUppercase code || titlecaseLetters.contains code

/-- Whether a character is passed over when the case of the letters around it is looked at. -/
def isCaseIgnorable (code : Nat) : Bool :=
  inAny [nonspacingMarks, enclosingMarks, formats, modifierLetters, modifierSymbols,
    otherCaseIgnorable] code

/-- Whether a character is a part of a word. -/
def isWordChar (code : Nat) : Bool :=
  code == 0x200C || code == 0x200D
    || inAny (letters ++ marks ++ [decimalNumbers, letterNumbers, connectorPunctuation, otherAlphabetic])
      code

end FormEditor.Unicode
