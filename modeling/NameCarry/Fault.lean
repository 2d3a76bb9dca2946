import NameCarry.Descriptor.Reader
import NameCarry.Text.Quoted

/-!
# Faults

A fault says why a line could not be used, or why a run could not start. Each fault has a kind, a
message for readers, and a detailed form that shows the kind and all its texts quoted.
-/

namespace NameCarry

/-- The kinds of faults. -/
inductive FaultKind where
  /-- A type descriptor cannot be read. -/
  | invalidDescriptor
  /-- A line does not have the shape that its place asks for. -/
  | unmatchedLine
  /-- No class has the name that a line gives. -/
  | unknownClass
  /-- The class has no member of the name that a line gives. -/
  | unknownMember
  /-- No method of the name has the parameters that a line gives. -/
  | parameterMismatch
  /-- The method has another result type than a line says. -/
  | resultMismatch
  /-- A file that is to be read does not exist. -/
  | missingInput
  deriving DecidableEq, Repr

namespace FaultKind

/-- All kinds, in the order of their declaration. -/
def all : List FaultKind :=
  [invalidDescriptor, unmatchedLine, unknownClass, unknownMember, parameterMismatch, resultMismatch,
    missingInput]

/-- The kind in one word. -/
def name : FaultKind → String
  | invalidDescriptor => "InvalidDescriptor"
  | unmatchedLine => "UnmatchedLineGrammar"
  | unknownClass => "MissingClassLookup"
  | unknownMember => "MissingMember"
  | parameterMismatch => "ParameterMismatch"
  | resultMismatch => "ReturnTypeMismatch"
  | missingInput => "MissingInputFile"

end FaultKind

/-- Why a line could not be used, or why a run could not start. -/
inductive Fault where
  /-- A type descriptor cannot be read. -/
  | invalidDescriptor (fault : DescriptorFault)
  /-- A line is not of the given shape, for the given reason. -/
  | unmatchedLine (shape reason : String)
  /-- No class has the given name among the names of the given kind. -/
  | unknownClass (kind name : String)
  /-- The class has no member of the given kind and obfuscated name. -/
  | unknownMember (owner kind obfuscated community : String)
  /-- The class has methods of the given obfuscated name, but none with the given parameters. -/
  | parameterMismatch (owner obfuscated community params : String)
  /-- The method has the first type as its result, where the second one was asked for. -/
  | resultMismatch (owner obfuscated community expected actual : String)
  /-- The file that holds what is described does not exist at the given path. -/
  | missingInput (description path : String)
  deriving DecidableEq, Repr

namespace DescriptorFault

/-- The fault in words. -/
def message (fault : DescriptorFault) : String :=
  "Invalid descriptor " ++ Text.quoted fault.descriptor ++ ": " ++ fault.cause.message

/-- The fault with its texts quoted. -/
def detail (fault : DescriptorFault) : String :=
  Text.quotedRecord "InvalidDescriptor"
    [("descriptor", fault.descriptor), ("reason", fault.cause.message)]

end DescriptorFault

namespace Fault

/-- The kind of a fault. -/
def kind : Fault → FaultKind
  | invalidDescriptor _ => .invalidDescriptor
  | unmatchedLine .. => .unmatchedLine
  | unknownClass .. => .unknownClass
  | unknownMember .. => .unknownMember
  | parameterMismatch .. => .parameterMismatch
  | resultMismatch .. => .resultMismatch
  | missingInput .. => .missingInput

/-- The fault in words. -/
def message : Fault → String
  | invalidDescriptor fault => fault.message
  | unmatchedLine shape reason => "Line does not match the " ++ shape ++ " grammar: " ++ reason
  | unknownClass kind name =>
    "Could not find mapping data by " ++ kind ++ " class name " ++ Text.quoted name
  | unknownMember owner kind obfuscated community =>
    owner ++ ": Could not find " ++ kind ++ " by obf name " ++ Text.quoted obfuscated ++
      " (" ++ community ++ ")"
  | parameterMismatch owner obfuscated community params =>
    owner ++ ": Parameter mismatch in obf method " ++ Text.quoted obfuscated ++
      " (" ++ community ++ ") params: [" ++ params ++ "]"
  | resultMismatch owner obfuscated community expected actual =>
    owner ++ ": Return type mismatch: " ++ expected ++ " != " ++ actual ++
      " in obf method " ++ Text.quoted obfuscated ++ " (" ++ community ++ ")"
  | missingInput description path => description ++ " " ++ path ++ " does not exist"

/-- The fault with its kind and all its texts quoted. -/
def detail (fault : Fault) : String :=
  let name := fault.kind.name
  match fault with
  | invalidDescriptor fault => name ++ "(" ++ fault.detail ++ ")"
  | unmatchedLine shape reason => Text.quotedRecord name [("shape", shape), ("reason", reason)]
  | unknownClass kind sought => Text.quotedRecord name [("namespace", kind), ("name", sought)]
  | unknownMember owner kind obfuscated community =>
    Text.quotedRecord name
      [("class", owner), ("kind", kind), ("obfuscated", obfuscated), ("community", community)]
  | parameterMismatch owner obfuscated community params =>
    Text.quotedRecord name
      [("class", owner), ("obfuscated", obfuscated), ("community", community), ("params", params)]
  | resultMismatch owner obfuscated community expected actual =>
    Text.quotedRecord name
      [("class", owner), ("obfuscated", obfuscated), ("community", community),
        ("expected", expected), ("actual", actual)]
  | missingInput description path =>
    Text.quotedRecord name [("description", description), ("path", path)]

end Fault

end NameCarry
