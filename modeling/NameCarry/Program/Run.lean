import NameCarry.Program.CommandLine
import NameCarry.Program.Execution

/-!
# The program with tools of its own

`Tools.standard` are tools that the program can be run with. Its command lines are rows of texts.
-/

namespace NameCarry

/-- Reads command lines by `Arguments.read`, shows what lies below a level and writes JSON values by
`Json.pretty`. A level that is named outside of the command line, and known, comes before the one
that the switches ask for. -/
def Tools.standard : Tools String where
  parse parameters arguments :=
    match Arguments.read parameters arguments with
    | .ok found => .matches found
    | .error stop => .exit stop.status
  shows level filter event :=
    ((filter.bind Threshold.ofName?).getD (.upTo level)).shows event.level
  pretty := Json.pretty

/-- Carries a command line out on a store. -/
def Program.run (workingDirectory : String) (filter : Option String) (arguments : List String)
    (store : Store) : Result :=
  Tools.standard.run workingDirectory filter arguments store

end NameCarry
