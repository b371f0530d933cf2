/-!
# Options

What a command line can ask for: a program from a file or a built-in one, the tape, limit and state
to start with, and what is printed about the run.
-/
namespace TuringScript.CommandLine

structure Options where
  program : Option String := none
  builtin : Option String := none
  input : Option String := none
  limit : Option Nat := none
  state : Option String := none
  trace : Bool := false
  width : Nat := 21
  json : Bool := false
  list : Bool := false
  verbosity : Nat := 0
  deriving DecidableEq, Repr

end TuringScript.CommandLine
