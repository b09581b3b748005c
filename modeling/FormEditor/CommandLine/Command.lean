import FormEditor.CommandLine.Settings

/-! What can be asked for on the command line: the settings, the name of what is asked for, and the arguments
that go with it. Whatever is spelled in any other way is no invocation. -/

namespace FormEditor

/-- What is done with a form and its records. -/
inductive Command where
  /-- Lists the types that match a search. -/
  | palette (search : String)
  /-- Puts a new element into a section. -/
  | drop (tag : String) (sectionId : Option String) (index : Option Nat)
  | delete (elementId : String)
  | duplicate (elementId : String)
  | morph (elementId tag : String)
  | moveRow (rowId : String) (direction : MoveDirection)
  | rename (name : String)
  /-- Shows a mode, with a record selected. -/
  | render (mode : ViewMode) (record : Option RecordId)
  /-- Adds a record with the assigned values, or assigns them to a record. -/
  | submit (assignments : List String) (record : Option RecordId)
  | deleteRecord (id : RecordId)
  /-- Takes the form, or a record, from the text in a file. -/
  | sync (path : String) (record : Option RecordId)
  deriving DecidableEq

namespace Command

def recordId? (text : String) : Option RecordId :=
  (Decimal.word? text).map UInt64.ofNat

def direction? : String → Option MoveDirection
  | "up" => some .up
  | "down" => some .down
  | _ => none

def mode? (text : String) : Option ViewMode :=
  (ViewMode.ofName text).toOption

/-- The options that a command takes after its name. -/
def specs : String → List OptionSpec
  | "drop" => [.valued "section", .valued "index"]
  | "render" | "submit" | "sync" => [.valued "record"]
  | _ => []

/-- The command of a name and its arguments. -/
def ofGiven? (name : String) (given : Arguments) : Option Command :=
  match name, given.values with
  | "palette", [] => some (.palette "")
  | "palette", [search] => some (.palette search)
  | "drop", [tag] => do
    let index ← (given.option? "index").mapM Decimal.word?
    some (.drop tag (given.option? "section") index)
  | "delete", [elementId] => some (.delete elementId)
  | "duplicate", [elementId] => some (.duplicate elementId)
  | "morph", [elementId, tag] => some (.morph elementId tag)
  | "move-row", [rowId, direction] => (direction? direction).map (.moveRow rowId)
  | "rename", [name] => some (.rename name)
  | "render", modes => do
    let record ← (given.option? "record").mapM recordId?
    match modes with
    | [] => some (.render .editor record)
    | [mode] => (mode? mode).map (.render · record)
    | _ => none
  | "submit", assignments => do
    let record ← (given.option? "record").mapM recordId?
    some (.submit assignments record)
  | "delete-record", [id] => (recordId? id).map .deleteRecord
  | "sync", [path] => do
    let record ← (given.option? "record").mapM recordId?
    let path ← Settings.path? path
    some (.sync path record)
  | _, _ => none

def ofArguments? (name : String) (texts : List String) : Option Command := do
  let given ← Arguments.read? (specs name) true texts
  ofGiven? name given

end Command

/-- What can be asked for: a new form, or a command on one. -/
inductive Request where
  /-- Writes a new form, over a file that is there only if forced. -/
  | new (name : Option String) (force : Bool)
  | command (command : Command)
  deriving DecidableEq

def Request.ofArguments? (name : String) (texts : List String) : Option Request :=
  if name = "new" then do
    let given ← Arguments.read? [.valued "name", .flag "force"] true texts
    if given.values.isEmpty then some (.new (given.option? "name") (given.has "force")) else none
  else (Command.ofArguments? name texts).map .command

/-- A request with its settings. -/
structure Invocation where
  settings : Settings
  request : Request
  deriving DecidableEq

namespace Invocation

def ofArguments? (environment : Environment) (texts : List String) : Option Invocation := do
  let given ← Arguments.read? Settings.specs false texts
  let settings ← Settings.ofArguments? environment given
  let name :: rest := given.values | none
  let request ← Request.ofArguments? name rest
  some ⟨settings, request⟩

/-- The paths of the files that are looked at. -/
def paths (invocation : Invocation) : List String :=
  let read := match invocation.request with
    | .command (.sync path _) => [path]
    | _ => []
  invocation.settings.formPath :: (invocation.settings.recordsPath.toList ++ read)

end Invocation

end FormEditor
