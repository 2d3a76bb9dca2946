import NameCarry.Program.Options

/-!
# A reader of command lines

An argument that starts with two hyphens names an option. The value of an option stands behind an
equals sign or is the next argument; an argument that starts with a hyphen is no value unless it is
the hyphen alone. There are no other arguments: anything else is refused, and so is a name that is
not known in full.

The arguments are read from left to right. A request for help or for the version is answered where
it is met, whatever stands behind it. What can only be seen at the end, such as a switch that is
given twice, is looked at when all arguments are read.
-/

namespace NameCarry

/-- What was read of a command line. -/
structure Arguments where
  /-- The options, as often as they are named. -/
  named : List String := []
  /-- The values of options. -/
  values : List (String × String) := []
  /-- The option that the next argument may be the value of. -/
  pending : Option String := none
  /-- Whether all options are read. -/
  closed : Bool := false
  deriving DecidableEq, Repr

namespace Arguments

/-- How a command line ends the program before a run: it is answered, or it is refused. -/
inductive Stop where
  | answered
  | refused
  deriving DecidableEq, Repr

/-- The status of a program that ends so. -/
def Stop.status : Stop → Nat
  | answered => 0
  | refused => 1

/-- Adds a value to an option that waits for none. -/
def addValue (arguments : Arguments) (name value : String) : Arguments :=
  { arguments with values := arguments.values ++ [(name, value)], pending := none }

/-- Whether an argument can be the value of the option before it. -/
def isValue (argument : String) : Bool :=
  argument == "-" || argument.toList.head? != some '-'

/-- The name and the value of an argument with two hyphens. The hyphens at its start and the equals
signs before the value belong to neither. -/
def splitLong (argument : String) : String × Option String :=
  let body := argument.toList.dropWhile (· == '-')
  let name := String.ofList (body.takeWhile (· != '='))
  match body.dropWhile (· != '=') with
  | [] => (name, none)
  | behind => (name, some (String.ofList (behind.dropWhile (· == '='))))

/-- Reads an argument with one hyphen. Only help and version have names of one letter. -/
def stepShort (argument : String) : Except Stop Arguments :=
  match argument.toList.drop 1 with
  | 'h' :: _ => .error .answered
  | 'V' :: _ => .error .answered
  | _ => .error .refused

section

variable (parameters : List Parameter)

/-- Reads an argument with two hyphens. A switch passes over a value. -/
def stepLong (arguments : Arguments) (argument : String) : Except Stop Arguments :=
  let (name, value) := splitLong argument
  if name == "help" || name == "version" then .error .answered
  else match parameters.find? (·.name == name) with
    | none => .error .refused
    | some parameter =>
      let arguments := { arguments with named := arguments.named ++ [name] }
      if !parameter.takesValue then .ok arguments
      else match value with
        | some value => .ok (arguments.addValue name value)
        | none => .ok { arguments with pending := some name }

/-- Reads an argument that is no value. -/
def stepName (arguments : Arguments) (argument : String) : Except Stop Arguments :=
  let arguments := { arguments with pending := none }
  if argument == "--" then .ok { arguments with closed := true }
  else if ['-', '-'].isPrefixOf argument.toList then stepLong parameters arguments argument
  else if argument != "-" && argument.toList.head? == some '-' then stepShort argument
  else .error .refused

/-- Reads one more argument. -/
def step (arguments : Arguments) (argument : String) : Except Stop Arguments :=
  if arguments.closed then .error .refused
  else match arguments.pending with
    | some name =>
      if isValue argument then .ok (arguments.addValue name argument)
      else stepName parameters arguments argument
    | none => stepName parameters arguments argument

end

/-- The values that an option is given. -/
def given (arguments : Arguments) (parameter : Parameter) : List String :=
  (arguments.values.filter (·.1 == parameter.name)).map (·.2)

/-- Whether an option is given as often, and as fully, as it can be. One that has a value to fall
back on can be named without a value. -/
def isSound (arguments : Arguments) (parameter : Parameter) : Bool :=
  let count := arguments.named.count parameter.name
  (parameter.repeats || count ≤ 1) &&
    (!parameter.takesValue || parameter.default?.isSome || count == 0 ||
      !(arguments.given parameter).isEmpty)

/-- The values of an option, or the one that it falls back on. -/
def valuesOf (parameters : List Parameter) (arguments : Arguments) (name : String) : List String :=
  match parameters.find? (·.name == name) with
  | none => []
  | some parameter =>
    match arguments.given parameter with
    | [] => parameter.default?.toList
    | values => values

/-- The options and values that were read, with the values to fall back on. -/
def toMatches (parameters : List Parameter) (arguments : Arguments) : Matches where
  isPresent name := arguments.named.contains name || !(valuesOf parameters arguments name).isEmpty
  valueOf name := (valuesOf parameters arguments name).head?.map some
  valuesOf name :=
    match valuesOf parameters arguments name with
    | [] => none
    | values => some (values.map some)

/-- What is found on a command line when all arguments are read. -/
def finish (parameters : List Parameter) (arguments : Arguments) : Except Stop Matches :=
  if parameters.all arguments.isSound then .ok (arguments.toMatches parameters)
  else .error .refused

/-- Reads a command line. -/
def read (parameters : List Parameter) (arguments : List String) : Except Stop Matches :=
  arguments.foldlM (step parameters) {} >>= finish parameters

end Arguments

end NameCarry
