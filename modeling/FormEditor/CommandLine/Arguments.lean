/-! The arguments of a command are options and values. An option is written `--name`, or `-l` if it has a
letter; the value of an option is the argument after it, or stands in the same argument after a `=`, which
may be left out after a letter. After `--` every argument is a value. -/

namespace FormEditor

/-- An option that a command takes. -/
structure OptionSpec where
  name : String
  letter : Option Char
  takesValue : Bool
  deriving DecidableEq

namespace OptionSpec

/-- An option that has a value. -/
def valued (name : String) : OptionSpec :=
  ⟨name, none, true⟩

/-- An option that is given or not. -/
def flag (name : String) : OptionSpec :=
  ⟨name, none, false⟩

end OptionSpec

/-- What one argument is by its spelling. -/
inductive Argument where
  | value (text : String)
  | separator
  | named (name : String) (attached : Option String)
  | lettered (letter : Char) (attached : Option String)
  deriving DecidableEq

namespace Argument

/-- A name and what stands after the first `=`. -/
def splitName (chars : List Char) : String × Option String :=
  match chars.span (· ≠ '=') with
  | (name, []) => (String.ofList name, none)
  | (name, _ :: attached) => (String.ofList name, some (String.ofList attached))

/-- A dash by itself is a value. -/
def ofText (text : String) : Argument :=
  match text.toList with
  | ['-', '-'] => .separator
  | '-' :: '-' :: chars =>
    let (name, attached) := splitName chars
    .named name attached
  | ['-', letter] => .lettered letter none
  | '-' :: letter :: '=' :: chars => .lettered letter (some (String.ofList chars))
  | '-' :: letter :: chars => .lettered letter (some (String.ofList chars))
  | _ => .value text

def isValue : Argument → Bool
  | .value _ => true
  | _ => false

end Argument

/-- Arguments that were read: options by name, with an empty value for a flag, and values. -/
structure Arguments where
  options : List (String × String)
  values : List String
  deriving DecidableEq

namespace Arguments

def addOption (name value : String) (given : Arguments) : Arguments :=
  { given with options := (name, value) :: given.options }

def addValue (value : String) (given : Arguments) : Arguments :=
  { given with values := value :: given.values }

/-- The option that an argument names, and the value attached to it. -/
def named? (specs : List OptionSpec) : Argument → Option (OptionSpec × Option String)
  | .named name attached => (specs.find? (·.name = name)).map fun spec => (spec, attached)
  | .lettered letter attached => (specs.find? (·.letter = some letter)).map fun spec => (spec, attached)
  | _ => none

/-- Reads the arguments of a command. Options and values may alternate. If they may not, the first value
ends the options, and is left with all that follows it. -/
def scan (specs : List OptionSpec) (alternate : Bool) : List String → Option Arguments
  | [] => some ⟨[], []⟩
  | text :: rest =>
    match Argument.ofText text, named? specs (Argument.ofText text) with
    | .separator, _ => if alternate then some ⟨[], rest⟩ else none
    | .value _, _ => if alternate then (scan specs alternate rest).map (addValue text) else some ⟨[], text :: rest⟩
    | _, none => none
    | _, some (spec, attached) =>
      match spec.takesValue, attached, rest with
      | true, some value, rest => (scan specs alternate rest).map (addOption spec.name value)
      | true, none, value :: rest =>
        if (Argument.ofText value).isValue then (scan specs alternate rest).map (addOption spec.name value)
        else none
      | true, none, [] => none
      | false, none, rest => (scan specs alternate rest).map (addOption spec.name "")
      | false, some _, _ => none

/-- Reads arguments in which no option is given twice. -/
def read? (specs : List OptionSpec) (alternate : Bool) (texts : List String) : Option Arguments := do
  let given ← scan specs alternate texts
  if (given.options.map (·.1)).Nodup then some given else none

def option? (given : Arguments) (name : String) : Option String :=
  given.options.lookup name

def has (given : Arguments) (name : String) : Bool :=
  (given.option? name).isSome

end Arguments

end FormEditor
