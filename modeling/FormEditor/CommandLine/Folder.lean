import FormEditor.CommandLine.Error
import FormEditor.Dictionary
import FormEditor.Text.Blank

/-! What a command finds at a path, and a folder of text files by name in which several commands can follow one
another. Nothing stands outside of the folder, and no other folder inside. -/

namespace FormEditor

/-- What stands at a path. -/
inductive FileState where
  | absent
  | text (content : String)
  /-- Something that is not a text, such as a folder. -/
  | other
  /-- The path leads through a file, or has a name that no file can have. -/
  | unreachable
  deriving DecidableEq

namespace FileState

def isPresent : FileState → Bool
  | .text _ | .other => true
  | .absent | .unreachable => false

/-- The text of a file, if the file is there. -/
def content? (path : String) : FileState → Except CommandError (Option String)
  | .absent => pure none
  | .text content => pure (some content)
  | .other | .unreachable => throw (.file path)

/-- The text of a file that has to be there. -/
def content (path : String) (state : FileState) : Except CommandError String := do
  let some content ← state.content? path | throw (.file path)
  pure content

end FileState

/-- What stands at every path. -/
abbrev Files := String → FileState

/-- The text files of a folder by name. -/
abbrev Folder := Dictionary String

namespace Folder

/-- The parts of a path between its slashes. -/
def parts (path : String) : List (List Char) :=
  Text.splitAt '/' path.toList

/-- Whether a part of a path stays in the folder it stands in. -/
def stays (part : List Char) : Bool :=
  part = [] ∨ part = ['.']

/-- The names that a path leads along. -/
def names (path : String) : List String :=
  ((parts path).filter (!stays ·)).map String.ofList

/-- Whether a path asks for a folder at its end. -/
def endsInFolder (path : String) : Bool :=
  (parts path).getLast?.any stays

def isAbsolute (path : String) : Bool :=
  path.toList.head? = some '/'

/-- A name has at most 255 bytes and no zero among them. -/
def isName (name : String) : Bool :=
  name.utf8ByteSize ≤ 255 ∧ '\x00' ∉ name.toList

/-- The name of the file that a path leads to in the folder. -/
def fileName? (path : String) : Option String :=
  match names path with
  | [name] =>
    if name ≠ ".." ∧ isName name ∧ ¬ isAbsolute path ∧ ¬ endsInFolder path then some name else none
  | _ => none

/-- What stands at a path seen from the folder. -/
def look (folder : Folder) (path : String) : FileState :=
  match fileName? path, names path with
  | some name, _ => (folder.get? name).elim .absent .text
  | none, [] => .other
  | none, name :: rest =>
    if (name :: rest).all (· = "..") then .other
    else if ¬ (name :: rest).all isName then .unreachable
    else if ¬ isAbsolute path ∧ (folder.get? name).isSome then .unreachable
    else .absent

/-- Writes files in order until one cannot be written. -/
def write (folder : Folder) : List (String × String) → Except CommandError Unit × Folder
  | [] => (.ok (), folder)
  | (path, text) :: writes =>
    match fileName? path with
    | some name => write (folder.insert name text) writes
    | none => (.error (.file path), folder)

end Folder

end FormEditor
