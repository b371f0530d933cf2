import TuringScript.CommandLine.Arguments
import TuringScript.CommandLine.Run

/-!
# Execution

The answer to the arguments of a command line. Usage errors have exit code 2.
-/
namespace TuringScript.CommandLine

def respond (fuel : Nat) (storage : Storage) (args : List String) : Option Outcome :=
  match options args with
  | .error fault => some ⟨2, "", ["error: " ++ fault.message]⟩
  | .ok options => execute indentedJson fuel storage options

end TuringScript.CommandLine
