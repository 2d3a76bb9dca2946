import NameCarry.Program.Run

/-!
# The program

Reads the inputs, leaves every decision to `Tools.prepare`, and writes the outputs. Messages go to
standard error. It is run with `Tools.standard`.
-/

namespace NameCarry.Program

/-- The environment variable that names a level for the messages. -/
def levelVariable : String := "RUST_LOG"

/-- How the program is used. -/
def usage : String :=
  "usage: namecarry [--debug] [--verbose] " ++
    " ".intercalate ((parameters.filter (·.takesValue)).map fun parameter =>
      "[--" ++ parameter.name ++ " VALUE]")

/-- What lies at a path. A path that is too long leads nowhere. -/
def readContent (path : String) : IO Content := do
  try
    return .ofBytes (← IO.FS.readBinFile path)
  catch e =>
    match e with
    | .noFileOrDirectory .. | .invalidArgument .. => return .missing
    | .inappropriateType .. => return .directory
    | _ => return .undecodable

/-- Fills a file that is opened with a text. Says whether it took the text. -/
def fill (file : IO.FS.Handle) (text : String) : IO Bool := do
  try
    file.putStr text
    file.flush
    return true
  catch _ => return false

/-- Writes an output. Says whether the run goes on. -/
def writeFile (output : Output) : IO Bool := do
  match output.path with
  | none => return false
  | some path =>
    try
      let file ← IO.FS.Handle.mk path .write
      let filled ← fill file output.text
      return filled || output.mayBeLost
    catch _ => return false

/-- Writes the outputs up to the first one that cannot be written. Gives the status with which the
writing ends. -/
def writeFiles : List Output → IO Nat
  | [] => return 0
  | output :: rest => do
    if ← writeFile output then writeFiles rest else return output.failure

/-- Shows messages on the console. -/
def showAll (shown : List Shown) : IO Unit :=
  for piece in shown do
    match piece with
    | .message level text => IO.eprintln (level ++ " " ++ text)
    | .text text => IO.eprint text

/-- Carries a run out on the file system. Gives the status with which it ends. -/
def runFiles {α : Type} (tools : Tools α) (options : Options) : IO Nat := do
  let filter ← IO.getEnv levelVariable
  match options.inputs.mapM id with
  | none => return brokenStatus
  | some paths =>
    let contents ← paths.mapM readContent
    let prepared := tools.prepare (← IO.currentDir).toString options paths contents
    showAll (tools.shownEvents options filter prepared.events)
    match prepared.value with
    | .error status => return status
    | .ok outputs =>
      let status ← writeFiles outputs
      if status == 0 then showAll (tools.shownEvents options filter #[.complete])
      return status

/-- Carries a command line out on the file system. Gives the status with which it ends. -/
def runCommandLine {α : Type} (tools : Tools α) (arguments : List α) : IO Nat := do
  match tools.parse parameters arguments with
  | .matches found => runFiles tools (.ofMatches found)
  | .exit status =>
    if status == 0 then IO.println usage else IO.eprintln usage
    return status

end NameCarry.Program

/-- Runs the program with the given arguments. -/
def main (arguments : List String) : IO UInt32 := do
  return UInt32.ofNat (← NameCarry.Program.runCommandLine NameCarry.Tools.standard arguments)
