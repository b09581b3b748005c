/-! What reads patterns and finds them in texts. It is not fixed here: forms and records only ask whether a text is a
pattern and whether a pattern is found, so what is said of them holds for every engine. -/

namespace FormEditor

/-- An engine for patterns. -/
class PatternEngine where
  /-- The patterns that were read. -/
  Compiled : Type
  /-- Reads a pattern from its text, unless the text is none. -/
  compile? : String → Option Compiled
  /-- Whether a pattern is found anywhere in a text. -/
  matchesIn : Compiled → String → Bool

end FormEditor
