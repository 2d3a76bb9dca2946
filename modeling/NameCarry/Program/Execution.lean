import NameCarry.Journal.Console
import NameCarry.Program.Store
import NameCarry.Program.Tools
import NameCarry.Transfer

/-!
# Carrying out a command line

A run looks first whether its inputs are files, then reads all of them, and writes its outputs last,
so that it works on what was there at the start even if it writes over its inputs. It stops at the
first output that cannot be written.

A value of an option that is no text breaks the run off where it is asked for: the paths of the
inputs before anything else, the anchors before the inputs are read, the path of an output when it
is its turn.

`Tools.prepare` decides what is written, from what lies at the input paths. `Tools.run` carries a
whole command line out on a store.
-/

namespace NameCarry

/-- The status of a run that ends with an error. -/
def errorStatus : Nat := 1

/-- The status of a run that breaks off. -/
def brokenStatus : Nat := 101

/-- A text with the path that it is written to. -/
structure Output where
  /-- Where the text goes. -/
  path : Value
  /-- The text. -/
  text : String
  /-- Whether the run goes on if the place is opened but the text gets lost. -/
  mayBeLost : Bool := false
  deriving DecidableEq, Repr

namespace Output

/-- Writes an output into a store, unless it cannot be written. -/
def write? (output : Output) (store : Store) : Option Store :=
  output.path.bind fun path =>
    (store.open? path).bind fun location =>
      match store.fill? location output.text with
      | some store => some store
      | none => if output.mayBeLost then some store else none

/-- The status of a run that cannot write an output. -/
def failure (output : Output) : Nat :=
  if output.path.isSome then errorStatus else brokenStatus

end Output

namespace Program

/-- What the inputs are called when they are missing. -/
def descriptions : Inputs String where
  oldMapping := "mapping file"
  classLinks := "bukkit-cl file"
  memberLinks := "bukkit-members file"
  exclusions := "bukkit.exclude file"
  newMapping := "mapping file"

/-- A path as it is from the root, in the given working directory. -/
def fullPath (workingDirectory path : String) : String :=
  if path.toList.head? == some '/' then path
  else if workingDirectory.toList.getLast? == some '/' then workingDirectory ++ path
  else workingDirectory ++ "/" ++ path

/-- The fault of an input that is not there. -/
def missingInput (workingDirectory description path : String) : Fault :=
  .missingInput description (fullPath workingDirectory path)

/-- The fault of the first input that is no file. -/
def firstMissing? (workingDirectory : String) (paths : Inputs String) (contents : Inputs Content) :
    Option Fault :=
  (descriptions.toList.zip (paths.toList.zip contents.toList)).findSome?
    fun (description, path, content) =>
      if content.isFile then none else some (missingInput workingDirectory description path)

/-- The bytes that are kept back while the summary is written. A place can refuse these only when
nobody asks any more. -/
def bufferSize : Nat := 8192

/-- Writes the outputs one after the other, up to the first one that cannot be written. Gives the
status with which the writing ends. -/
def writeAll (store : Store) : List Output → Store × Nat
  | [] => (store, 0)
  | output :: rest =>
    match output.write? store with
    | some store => writeAll store rest
    | none => (store, output.failure)

/-- What a command line leaves behind. -/
structure Result where
  /-- The status that the program ends with: 0 if all is well. -/
  status : Nat
  /-- The store afterwards. -/
  store : Store
  /-- What was shown on the console, in order. -/
  shown : List Shown := []

/-- The messages that can be told from the console, each with its level. -/
def Result.messages (result : Result) : List (String × String) :=
  Shown.messages result.shown

end Program

namespace Tools

open Program

variable {α : Type} (tools : Tools α)

/-- The outputs of a run, in the order in which they are written. Only the summary may be lost. -/
def outputs (options : Options) (outcome : Outcome) : List Output :=
  [{ path := options.classLinksOut, text := joinLines outcome.classLinks },
    { path := options.memberLinksOut, text := joinLines outcome.memberLinks },
    { path := options.exclusionsOut, text := joinLines outcome.exclusions }] ++
    options.summaryOut.toList.map fun path =>
      let text := tools.pretty outcome.summary.toJson
      { path, text, mayBeLost := text.utf8ByteSize ≤ bufferSize }

/-- Decides what is written, from what lies at the input paths, or with which status the run ends
before there is anything to write. -/
def prepare (workingDirectory : String) (options : Options) (paths : Inputs String)
    (contents : Inputs Content) : Noted (Except Nat (List Output)) :=
  match firstMissing? workingDirectory paths contents with
  | some fault => do
    Noted.note (.refused fault)
    return .error errorStatus
  | none =>
    match options.settings? with
    | none => return .error brokenStatus
    | some settings => do
      Noted.note .loadingFiles
      match contents.mapM Content.text? with
      | none => return .error errorStatus
      | some texts =>
        let outcome ← Transfer.run settings texts
        Noted.note .writingFiles
        return .ok (tools.outputs options outcome)

/-- The messages of the events that are shown. -/
def shownEvents (options : Options) (filter : Option String) (events : Array Event) : List Shown :=
  (events.toList.filter (tools.shows options.level filter)).map fun event =>
    .message event.level.label event.text

/-- Carries a run out on a store. The texts that are written to the console stand before the last
message. -/
def execute (workingDirectory : String) (filter : Option String) (options : Options)
    (store : Store) : Result :=
  match options.inputs.mapM id with
  | none => { status := brokenStatus, store }
  | some paths =>
    let contents := (paths.mapM fun path => pure (store.content path) : Id _)
    let prepared := tools.prepare workingDirectory options paths contents
    let before := tools.shownEvents options filter prepared.events
    match prepared.value with
    | .error status => { status, store, shown := before }
    | .ok outputs =>
      let (after, status) := writeAll store outputs
      let written := after.console.drop store.console.length
      let shown := before ++ written.map .text
      if status == 0 then
        { status, store := after, shown := shown ++ tools.shownEvents options filter #[.complete] }
      else { status, store := after, shown }

/-- Carries a command line out on a store. -/
def run (workingDirectory : String) (filter : Option String) (arguments : List α)
    (store : Store) : Result :=
  match tools.parse parameters arguments with
  | .exit status => { status, store }
  | .matches found => tools.execute workingDirectory filter (.ofMatches found) store

end Tools

end NameCarry
