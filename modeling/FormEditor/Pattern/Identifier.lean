import FormEditor.Pattern.CharSet
import FormEditor.Unicode.Category

/-! The characters that identifiers start with and those that they go on with: letters and numbers of letters at
the start, and marks, digits and connectors after it. The stricter sets leave out what a compatibility
normalization would take apart into characters that may not stand there. -/

namespace FormEditor.Pattern

open Unicode

/-- What may start an identifier although it is no letter. -/
def otherStarts : Table :=
  [(0x1885, 0x1886, 1), (0x2118, 0x2118, 1), (0x212E, 0x212E, 1), (0x309B, 0x309C, 1)]

/-- What may stand in an identifier although it is neither a letter nor a mark, a digit or a connector. -/
def otherContinues : Table :=
  [(0xB7, 0xB7, 1), (0x387, 0x387, 1), (0x1369, 0x1371, 1), (0x19DA, 0x19DA, 1), (0x200C, 0x200D, 1),
    (0x30FB, 0x30FB, 1), (0xFF65, 0xFF65, 1)]

/-- What comes apart into characters that may not stand in an identifier. -/
def brittle : Table :=
  [(0x37A, 0x37A, 1), (0x309B, 0x309C, 1), (0xFC5E, 0xFC63, 1), (0xFDFA, 0xFDFB, 1), (0xFE70, 0xFE7E, 2)]

/-- What comes apart into a mark before a letter. -/
def brittleStarts : Table :=
  [(0xE33, 0xE33, 1), (0xEB3, 0xEB3, 1), (0xFF9E, 0xFF9F, 1)]

def identifierStart : CharSet :=
  (CharSet.ofTables (letterNumbers :: otherStarts :: letters)).diff (.ofChar '\u2E2F')

def identifierContinue : CharSet :=
  identifierStart.union
    (.ofTables [nonspacingMarks, spacingMarks, decimalNumbers, connectorPunctuation, otherContinues])

def strictIdentifierStart : CharSet :=
  identifierStart.diff (.ofTables [brittle, brittleStarts])

def strictIdentifierContinue : CharSet :=
  identifierContinue.diff (.ofTable brittle)

/-- The sets of identifiers, by name. -/
def identifierSets : List (List String × CharSet) :=
  [(["idstart", "ids"], identifierStart), (["idcontinue", "idc"], identifierContinue),
    (["xidstart", "xids"], strictIdentifierStart), (["xidcontinue", "xidc"], strictIdentifierContinue)]

end FormEditor.Pattern
