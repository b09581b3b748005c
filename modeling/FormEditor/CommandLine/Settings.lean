import FormEditor.CommandLine.Arguments
import FormEditor.Decimal.Digits
import FormEditor.Editor.Action

/-! The settings of a command are given by the options before its name, else by variables of the environment.
A wrong path or policy is refused; a variable with a wrong delay counts as not given. -/

namespace FormEditor

/-- The values of the variables that are set. -/
abbrev Environment := String → Option String

/-- An unsigned number of 64 bits. A plus sign may stand before it. -/
def Decimal.word? (text : String) : Option Nat :=
  let digits := match text.toList with
    | '+' :: digits => digits
    | digits => digits
  (Decimal.ofText? digits).filter (· < 0x10000000000000000)

def DeletePolicy.ofName? : String → Option DeletePolicy
  | "whole-row" => some .wholeRow
  | "column-only" => some .columnOnly
  | _ => none

structure Settings where
  formPath : String
  recordsPath : Option String
  textDebounce : Nat
  modelDebounce : Nat
  deletePolicy : DeletePolicy
  deriving DecidableEq

namespace Settings

/-- The options before the name of a command. -/
def specs : List OptionSpec :=
  [⟨"form", some 'f', true⟩, .valued "records", .valued "debounce-ms", .valued "delete-policy"]

/-- The variables that are looked up. -/
def variableNames : List String :=
  ["FORMDESK_FORM", "FORMDESK_RECORDS", "FORMDESK_DELETE_POLICY", "FORMDESK_DEBOUNCE_MS",
    "FORMDESK_PUSH_DELAY_MS"]

/-- A path is not empty. -/
def path? (text : String) : Option String :=
  if text.isEmpty then none else some text

/-- A delay that is given by a variable. -/
def delay (environment : Environment) (name : String) (standard : Nat) : Nat :=
  ((environment name).bind Decimal.word?).getD standard

def ofArguments? (environment : Environment) (given : Arguments) : Option Settings := do
  let formPath ← ((given.option? "form").or (environment "FORMDESK_FORM")).mapM path?
  let recordsPath ← ((given.option? "records").or (environment "FORMDESK_RECORDS")).mapM path?
  let textDebounce ← (given.option? "debounce-ms").mapM Decimal.word?
  let deletePolicy ←
    ((given.option? "delete-policy").or (environment "FORMDESK_DELETE_POLICY")).mapM DeletePolicy.ofName?
  let standard := EditorConfig.standard
  some
    { formPath := formPath.getD "form.json"
      recordsPath
      textDebounce := textDebounce.getD (delay environment "FORMDESK_DEBOUNCE_MS" standard.textDebounce)
      modelDebounce := delay environment "FORMDESK_PUSH_DELAY_MS" standard.modelDebounce
      deletePolicy := deletePolicy.getD standard.deletePolicy }

/-- How an editor is started with the settings. -/
def config (settings : Settings) (initialMode : ViewMode) : EditorConfig :=
  { EditorConfig.standard with
    textDebounce := settings.textDebounce
    modelDebounce := settings.modelDebounce
    deletePolicy := settings.deletePolicy
    initialMode }

end Settings

end FormEditor
