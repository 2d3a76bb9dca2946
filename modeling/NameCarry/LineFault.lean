import NameCarry.Fault

/-!
# Faults of a line's shape

Each line of an input has one of five shapes, and each part of a shape can be missing or malformed
in a way of its own. The shape and the cause together give the words of the fault.
-/

namespace NameCarry

/-- The shapes that a line can have. -/
inductive LineShape where
  /-- The line that opens a class in a mapping. -/
  | classHeader
  /-- The line of a field in a mapping. -/
  | fieldEntry
  /-- The line of a method in a mapping. -/
  | methodEntry
  /-- A line that gives a class its community name. -/
  | classLink
  /-- A line that gives a member its community name. -/
  | memberLink
  deriving DecidableEq, Repr

/-- The shape in words. -/
def LineShape.name : LineShape → String
  | classHeader => "class header"
  | fieldEntry => "field entry"
  | methodEntry => "method entry"
  | classLink => "class link"
  | memberLink => "member link"

/-- What keeps a line from having its shape. -/
inductive LineCause where
  /-- No arrow parts the names. -/
  | missingArrow
  /-- There is nothing on one side of the arrow. -/
  | emptySide
  /-- The name behind the arrow is more than one word. -/
  | blankInObfuscated
  /-- The header of a class does not end with a colon. -/
  | missingColon
  /-- The class name before the arrow is more than one word. -/
  | blankInClassName
  /-- What stands before a field's arrow is not a type and a name. -/
  | notTypeAndName (declaration : String)
  /-- A method starts with a digit, but not with a range of line numbers. -/
  | malformedRange
  /-- A method has no opening parenthesis. -/
  | missingOpening
  /-- A method has no closing parenthesis behind the opening one. -/
  | missingClosing
  /-- Something else than line numbers stands behind a method's parameters. -/
  | dataBehindParameters
  /-- What stands before a method's parameters is not a type and a name. -/
  | notResultAndName
  /-- A method has a parameter without a type. -/
  | emptyParameter
  /-- A member is declared where no class is open. -/
  | outsideClass
  /-- A class link has fewer than two words. -/
  | tooFewWords (count : Nat)
  /-- A member link has neither three nor four words. -/
  | wrongWordCount (count : Nat)
  deriving DecidableEq, Repr

/-- The cause in words. -/
def LineCause.message : LineCause → String
  | missingArrow => "missing ' -> ' separator"
  | emptySide => "empty name around ' -> '"
  | blankInObfuscated => "obfuscated name contains whitespace"
  | missingColon => "missing trailing ':'"
  | blankInClassName => "class name contains whitespace"
  | notTypeAndName declaration => "expected '<type> <name>', got " ++ Text.quoted declaration
  | malformedRange => "malformed line range"
  | missingOpening => "missing '('"
  | missingClosing => "missing ')'"
  | dataBehindParameters => "unexpected data after ')'"
  | notResultAndName => "expected '<return type> <name>(...)'"
  | emptyParameter => "empty parameter type"
  | outsideClass => "member declared before any class"
  | tooFewWords count =>
    "expected '<obfuscated> <bukkit name>' but got " ++ toString count ++ " tokens"
  | wrongWordCount count => "expected 3 or 4 tokens but got " ++ toString count

/-- A line that does not have its shape. -/
structure LineFault where
  /-- The shape that the line should have. -/
  shape : LineShape
  /-- What keeps it from having it. -/
  cause : LineCause
  deriving DecidableEq, Repr

/-- The fault as one of the faults of a run. -/
def LineFault.toFault (fault : LineFault) : Fault :=
  .unmatchedLine fault.shape.name fault.cause.message

end NameCarry
