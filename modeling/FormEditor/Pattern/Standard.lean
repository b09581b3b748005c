import FormEditor.Pattern.Engine
import FormEditor.Pattern.Matcher
import FormEditor.Pattern.Reader

/-! The engine that the program runs with. It reads the notation of the reader, in which some properties of
characters have no name: their ages, and the breaks between graphemes, words and sentences. -/

namespace FormEditor

instance PatternEngine.standard : PatternEngine where
  Compiled := Pattern
  compile? := Pattern.ofText?
  matchesIn := Pattern.matchesIn

end FormEditor
