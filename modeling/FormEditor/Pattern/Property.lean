import FormEditor.Pattern.Identifier
import FormEditor.Unicode.Binary
import FormEditor.Unicode.Category
import FormEditor.Unicode.ScriptExtensions
import FormEditor.Unicode.Scripts

/-! The sets that patterns name: general categories, scripts and the properties that a character has or has not.
Names are compared without case, blanks, dashes, underscores and a leading `is`. -/

namespace FormEditor.Pattern

open Unicode

/-- A name without what does not count in it. -/
def propertyName (name : List Char) : String :=
  let stem := match name with
    | first :: second :: rest => if first.toLower = 'i' ∧ second.toLower = 's' then rest else name
    | _ => name
  let kept := (stem.filter fun char => char ≠ ' ' ∧ char ≠ '_' ∧ char ≠ '-' ∧ char.toNat < 0x80).map
    Char.toLower
  if kept = ['c'] ∧ stem.length < name.length then "isc" else String.ofList kept

/-- What the last two general categories leave over: everything but letters, marks, numbers, punctuation,
symbols and separators. -/
def others : CharSet :=
  (CharSet.ofTables (letters ++ marks ++ numbers ++ punctuation ++ symbols ++ separators)).negate

/-- The code points without a meaning. -/
def unassigned : CharSet :=
  others.diff (.ofTables [controls, formats, privateUse])

/-- The general categories that have a table, by name. -/
def generalCategories : List (List String × List Table) :=
  [(["l", "letter"], letters), (["lu", "uppercaseletter"], [uppercaseLetters]),
    (["ll", "lowercaseletter"], [lowercaseLetters]), (["lt", "titlecaseletter"], [titlecaseLetters]),
    (["lc", "casedletter"], [uppercaseLetters, lowercaseLetters, titlecaseLetters]),
    (["lm", "modifierletter"], [modifierLetters]), (["lo", "otherletter"], [otherLetters]),
    (["m", "mark", "combiningmark"], marks), (["mn", "nonspacingmark"], [nonspacingMarks]),
    (["mc", "spacingmark"], [spacingMarks]), (["me", "enclosingmark"], [enclosingMarks]),
    (["n", "number"], numbers), (["nd", "decimalnumber", "digit"], [decimalNumbers]),
    (["nl", "letternumber"], [letterNumbers]), (["no", "othernumber"], [otherNumbers]),
    (["p", "punctuation", "punct"], punctuation), (["pc", "connectorpunctuation"], [connectorPunctuation]),
    (["pd", "dashpunctuation"], [dashPunctuation]), (["ps", "openpunctuation"], [openPunctuation]),
    (["pe", "closepunctuation"], [closePunctuation]), (["pi", "initialpunctuation"], [initialPunctuation]),
    (["pf", "finalpunctuation"], [finalPunctuation]), (["po", "otherpunctuation"], [otherPunctuation]),
    (["s", "symbol"], symbols), (["sm", "mathsymbol"], [mathSymbols]),
    (["sc", "currencysymbol"], [currencySymbols]), (["sk", "modifiersymbol"], [modifierSymbols]),
    (["so", "othersymbol"], [otherSymbols]), (["z", "separator"], separators),
    (["zs", "spaceseparator"], [spaceSeparators]), (["zl", "lineseparator"], [lineSeparators]),
    (["zp", "paragraphseparator"], [paragraphSeparators]), (["cc", "control", "cntrl"], [controls]),
    (["cf", "format"], [formats]), (["co", "privateuse"], [privateUse])]

/-- The value of a name in a list in which every value has several names. -/
def byName? (name : String) (values : List (List String × α)) : Option α :=
  (values.find? (·.1.contains name)).map (·.2)

def generalCategory? (name : String) : Option CharSet :=
  match name with
  | "any" => some .all
  | "assigned" => some unassigned.negate
  | "ascii" => some (.ofCodes 0 0x7F)
  | "c" | "other" => some others
  | "cn" | "unassigned" => some unassigned
  | _ => (byName? name generalCategories).map CharSet.ofTables

def script? (name : String) : Option CharSet :=
  (byName? name scripts).map CharSet.ofTable

/-- The characters that are used with a script. Those of a script of their own that other scripts use as well
are theirs too, and those without one are only theirs. -/
def extendedScript? (name : String) : Option CharSet :=
  let shared := CharSet.ofTables (scriptExtensions.map (·.2))
  match name with
  | "common" | "zyyy" | "inherited" | "zinh" | "qaai" => (script? name).map (·.diff shared)
  | _ => (script? name).map (·.union (.ofTable ((byName? name scriptExtensions).getD [])))

/-- The properties that are made of general categories up to a few code points, by name. -/
def derivedProperties : List (List String × List Table) :=
  [(["alphabetic", "alpha"], letterNumbers :: otherAlphabetic :: letters),
    (["lowercase", "lower"], [lowercaseLetters, otherLowercase]),
    (["uppercase", "upper"], [uppercaseLetters, otherUppercase]),
    (["cased"], [lowercaseLetters, otherLowercase, uppercaseLetters, otherUppercase, titlecaseLetters]),
    (["caseignorable", "ci"],
      [nonspacingMarks, enclosingMarks, formats, modifierLetters, modifierSymbols, otherCaseIgnorable]),
    (["graphemeextend", "grext"], [nonspacingMarks, enclosingMarks, otherExtenders])]

/-- What takes up room by itself. -/
def graphemeBase : CharSet :=
  ((others.union (.ofTables [lineSeparators, paragraphSeparators])).union
    (.ofTables [nonspacingMarks, enclosingMarks, otherExtenders])).negate

def property? (name : String) : Option CharSet :=
  match byName? name derivedProperties, byName? name binaryProperties with
  | some tables, _ => some (.ofTables tables)
  | none, some table => some (.ofTable table)
  | none, none =>
    if name = "graphemebase" ∨ name = "grbase" then some graphemeBase else byName? name identifierSets

/-- The set that one name stands for: a property, or else a general category, or else a script. -/
def namedSet? (name : List Char) : Option CharSet :=
  let name := propertyName name
  ((property? name).or (generalCategory? name)).or (script? name)

/-- The set of a named value of a property. -/
def valueSet? (property value : List Char) : Option CharSet :=
  match propertyName property with
  | "gc" | "generalcategory" => generalCategory? (propertyName value)
  | "sc" | "script" => script? (propertyName value)
  | "scx" | "scriptextensions" => extendedScript? (propertyName value)
  | _ => none

/-- The blanks of all scripts. -/
def blanks : CharSet :=
  (property? "whitespace").getD .empty

def decimals : CharSet :=
  .ofTable decimalNumbers

/-- The characters that words are made of. -/
def wordChars : CharSet :=
  (CharSet.ofTables
    (decimalNumbers :: letterNumbers :: connectorPunctuation :: otherAlphabetic :: (letters ++ marks))).union
    (.ofChars ['\u200C', '\u200D'])

/-- The sets of ASCII characters that have a name in brackets and colons. -/
def asciiSet? : String → Option CharSet
  | "alnum" => some (.ofRanges [('0', '9'), ('A', 'Z'), ('a', 'z')])
  | "alpha" => some (.ofRanges [('A', 'Z'), ('a', 'z')])
  | "ascii" => some (.ofCodes 0 0x7F)
  | "blank" => some (.ofChars ['\t', ' '])
  | "cntrl" => some ((CharSet.ofCodes 0 0x1F).union (.ofCodes 0x7F 0x7F))
  | "digit" => some (.ofRange '0' '9')
  | "graph" => some (.ofRange '!' '~')
  | "lower" => some (.ofRange 'a' 'z')
  | "print" => some (.ofRange ' ' '~')
  | "punct" => some (.ofRanges [('!', '/'), (':', '@'), ('[', '\u0060'), ('\x7B', '~')])
  | "space" => some (.ofRanges [('\t', '\r'), (' ', ' ')])
  | "upper" => some (.ofRange 'A' 'Z')
  | "word" => some (.ofRanges [('0', '9'), ('A', 'Z'), ('_', '_'), ('a', 'z')])
  | "xdigit" => some (.ofRanges [('0', '9'), ('A', 'F'), ('a', 'f')])
  | _ => none

end FormEditor.Pattern
