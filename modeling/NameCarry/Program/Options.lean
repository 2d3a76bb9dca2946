import NameCarry.Inputs
import NameCarry.Journal.Level
import NameCarry.Settings

/-!
# Options of the command line

The program declares its options (`Program.parameters`). What is found of them on a command line is
handed over as `Matches`, and `Options.ofMatches` takes from it what a run is asked for.

The words of a command line are bytes of the system and need not be text. An option can be given a
value that is none, and it is not refused before somebody asks for it as a text.
-/

namespace NameCarry

/-- An option that the program declares. -/
structure Parameter where
  /-- The name that it is given by. -/
  name : String
  /-- Whether a value belongs to it. -/
  takesValue : Bool := true
  /-- The value of an option that is not given. -/
  default? : Option String := none
  /-- Whether it can be given more than once. -/
  repeats : Bool := false
  deriving DecidableEq, Repr

namespace Parameter

/-- An option that is given or not. -/
def switch (name : String) : Parameter :=
  { name, takesValue := false }

/-- An option for the path of a file. -/
def file (name fallback : String) : Parameter :=
  { name, default? := some fallback }

end Parameter

/-- The options of the program. -/
def Program.parameters : List Parameter :=
  [.switch "debug",
    .switch "verbose",
    .file "mapping-file" "./mappings.txt",
    .file "cl-file" "./bukkit-cl.csrg",
    .file "members-file" "./bukkit-members.csrg",
    .file "exclude-file" "./bukkit.exclude",
    .file "mapping2-file" "./mappings-new.txt",
    .file "output-cl-file" "./output-cl.csrg",
    .file "output-members-file" "./output-members.csrg",
    .file "output-exclude-file" "./output.exclude",
    { name := "summary-file" },
    { name := "anchor", repeats := true }]

/-- The value of an option, if it is a text. -/
abbrev Value :=
  Option String

/-- What is found of the options on a command line. -/
structure Matches where
  /-- Whether an option is there. -/
  isPresent : String → Bool
  /-- The first value of an option. -/
  valueOf : String → Option Value
  /-- The values of an option, in order. -/
  valuesOf : String → Option (List Value)

/-- What the command line asks for. -/
structure Options where
  /-- Whether debug messages are shown. -/
  debug : Bool
  /-- Whether all messages are shown. -/
  verbose : Bool
  /-- The paths of the inputs. -/
  inputs : Inputs Value
  /-- The path to write the new class links to. -/
  classLinksOut : Value
  /-- The path to write the new member links to. -/
  memberLinksOut : Value
  /-- The path to write the new exclusion list to. -/
  exclusionsOut : Value
  /-- The path to write the summary to, if it is asked for. -/
  summaryOut : Option Value
  /-- The anchors, if some are named. -/
  anchors : Option (List Value)
  deriving DecidableEq, Repr

namespace Options

/-- The options that are found on a command line. -/
def ofMatches (found : Matches) : Options where
  debug := found.isPresent "debug"
  verbose := found.isPresent "verbose"
  inputs := {
    oldMapping := path "mapping-file"
    classLinks := path "cl-file"
    memberLinks := path "members-file"
    exclusions := path "exclude-file"
    newMapping := path "mapping2-file" }
  classLinksOut := path "output-cl-file"
  memberLinksOut := path "output-members-file"
  exclusionsOut := path "output-exclude-file"
  summaryOut := found.valueOf "summary-file"
  anchors := found.valuesOf "anchor"
where
  /-- The path that an option is given. Each of them has a value to fall back on. -/
  path (name : String) : Value :=
    (found.valueOf name).getD (some "")

/-- The most detailed messages that the switches ask for. -/
def level (options : Options) : Level :=
  if options.verbose then .trace else if options.debug then .debug else .info

/-- The settings of the run, if the anchors are texts. -/
def settings? (options : Options) : Option Settings :=
  match options.anchors with
  | some anchors => (anchors.mapM id).map Settings.mk
  | none => some .default

/-- All values. -/
def values (options : Options) : List Value :=
  options.inputs.toList ++ [options.classLinksOut, options.memberLinksOut, options.exclusionsOut] ++
    options.summaryOut.toList ++ options.anchors.getD []

/-- All values are texts. -/
def IsText (options : Options) : Prop :=
  none ∉ options.values

instance (options : Options) : Decidable options.IsText :=
  inferInstanceAs (Decidable (none ∉ options.values))

end Options

end NameCarry
