import FormEditor.CommandLine.Run

/-! Looks at the files, runs the command that the arguments ask for, waits as long as the command does, and
writes what is to be written. -/

namespace FormEditor

/-- The text of a file that was opened. A folder can be opened but not read. -/
def readOpened (file : IO.FS.Handle) : IO FileState := do
  try
    match String.fromUTF8? (← file.readBinToEnd) with
    | some content => pure (.text content)
    | none => pure .other
  catch _ => pure .other

/-- Looks at what stands at a path. -/
def lookAt (path : String) : IO FileState := do
  try readOpened (← IO.FS.Handle.mk path .read)
  catch
    | .noFileOrDirectory .. => pure .absent
    | .permissionDenied .. => pure .other
    | _ => pure .unreachable

/-- A supply that starts at a random number. -/
def randomIds : IO IdSupply := do
  let bytes ← IO.getRandomBytes 16
  pure ⟨bytes.foldl (fun number byte => number * 256 + byte.toNat) 0⟩

/-- Writes files in order until one cannot be written. -/
def writeFiles : List (String × String) → IO (Except CommandError Unit)
  | [] => pure (.ok ())
  | (path, text) :: writes => do
    let written ← try
        IO.FS.writeFile path text
        pure true
      catch _ => pure false
    if written then writeFiles writes else pure (.error (.file path))

/-- Waits for so many milliseconds, a minute at a time. -/
def waitFor (time : Time) : IO Unit := do
  for _ in List.range (time / 60000) do IO.sleep 60000
  IO.sleep (UInt32.ofNat (time % 60000))

def fail (cause : CommandError) : IO UInt32 := do
  IO.eprintln s!"{cause.code}: {cause.message}"
  pure 1

def perform (invocation : Invocation) : IO UInt32 := do
  let states ← invocation.paths.mapM fun path => do pure (path, ← lookAt path)
  let files : Files := fun path => (states.lookup path).getD .absent
  match invocation.run files (← randomIds) with
  | .error cause => fail cause
  | .ok report =>
    waitFor report.waited
    match ← writeFiles report.writes with
    | .error cause => fail cause
    | .ok () =>
      unless report.message.isEmpty do IO.println report.message
      pure 0

def usage : String :=
  "usage: [--form FILE] [--records FILE] [--debounce-ms N] [--delete-policy whole-row|column-only] COMMAND\n"
    ++ "commands: new, palette, drop, delete, duplicate, morph, move-row, rename, render, submit,\n"
    ++ "  delete-record, sync"

end FormEditor

open FormEditor in
def main (arguments : List String) : IO UInt32 := do
  let values ← Settings.variableNames.mapM fun name => do pure (name, ← IO.getEnv name)
  match Invocation.ofArguments? (fun name => (values.lookup name).join) arguments with
  | some invocation => perform invocation
  | none =>
    IO.eprintln usage
    pure 2
