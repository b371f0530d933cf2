import TuringScript.CommandLine.Execute

/-!
# Main

The program: it fetches the one file its options name, and prints what the command line answers.
-/
namespace TuringScript.CommandLine

/-- A directory can be opened, so the failure to read it names no file. -/
def foundInstead : IO.Error → Found
  | .noFileOrDirectory .. => .absent FileError.notFound
  | .inappropriateType none .. => .directory []
  | .inappropriateType (some _) .. => .absent FileError.notDirectory
  | .invalidArgument .. => .absent FileError.nameTooLong
  | .permissionDenied .. => .absent FileError.permissionDenied
  | error => .absent (toString error)

def fetch (path : String) : IO Found := do
  try
    return .file (← IO.FS.readBinFile path)
  catch error =>
    return foundInstead error

def fetchFor (args : List String) : IO Storage := do
  match options args with
  | .ok { program := some path, .. } =>
    let found ← fetch path
    return ⟨fun _ => found⟩
  | _ => return ⟨fun _ => .directory []⟩

end TuringScript.CommandLine

open TuringScript in
def main (args : List String) : IO UInt32 := do
  let storage ← CommandLine.fetchFor args
  match CommandLine.respond Machine.patience storage args with
  | none => return 1
  | some outcome =>
    for line in outcome.diagnostics do
      IO.eprintln line
    IO.print outcome.output
    return outcome.code.toUInt32
