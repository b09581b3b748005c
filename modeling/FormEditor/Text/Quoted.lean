import FormEditor.Unicode.Category

/-! A text between quotes in which every character shows: quotes, backslashes, line ends, and whatever cannot
be shown by itself are written as escapes. -/

namespace FormEditor.Text

/-- A code point in lower-case hexadecimal digits. -/
def hex (code : Nat) : List Char :=
  Nat.toDigits 16 code

/-- A character as it is written between quotes. -/
def showChar (char : Char) : List Char :=
  match char with
  | '\x00' => ['\\', '0']
  | '\t' => ['\\', 't']
  | '\r' => ['\\', 'r']
  | '\n' => ['\\', 'n']
  | '\\' => ['\\', '\\']
  | '"' => ['\\', '"']
  | _ =>
    if Unicode.isPrintable char.toNat && !Unicode.extendsGrapheme char.toNat then [char]
    else ['\\', 'u', '\x7b'] ++ hex char.toNat ++ ['\x7d']

def quoted (text : String) : String :=
  String.ofList ('"' :: (text.toList.flatMap showChar ++ ['"']))

end FormEditor.Text
