import NameCarry.LineFault
import NameCarry.Text.Blank
import NameCarry.Text.Cut

/-!
# The lines of a mapping

A mapping lists the classes of a build, each with its members behind it:

    net.minecraft.Entity -> x:
        int count -> a
        12:14:void tick(long,int[]) -> b

A line that starts with a blank declares a member, any other line a class. A member is a method if
its line holds an opening parenthesis or, behind the blanks, starts with a digit; otherwise it is a
field. The names are parted by the last arrow of the line: the human name, with the types, stands
before it and the obfuscated name behind it.

`Declaration.read` reads a line. Where a line has several faults, the one that is tested first in
the readers below is reported.
-/

namespace NameCarry

/-- What a line of a mapping declares. -/
inductive Declaration where
  /-- A class. The members on the next lines are its members. -/
  | header (human obfuscated : String)
  /-- A field. -/
  | field (type human obfuscated : String)
  /-- A method. -/
  | method (result human : String) (params : List String) (obfuscated : String)
  deriving DecidableEq, Repr

namespace Declaration

/-- The arrow that parts the human name from the obfuscated name. -/
def arrow : List Char := [' ', '-', '>', ' ']

/-- The two sides of the last arrow, trimmed: some text, and one word behind it. -/
def cutArrow (body : List Char) : Except LineCause (List Char × List Char) :=
  match Text.cutLast? arrow body with
  | none => .error .missingArrow
  | some (before, behind) =>
    let left := Text.trim before
    let right := Text.trim behind
    if left.isEmpty || right.isEmpty then .error .emptySide
    else if right.any Text.isBlank then .error .blankInObfuscated
    else .ok (left, right)

/-- Reads `human -> obfuscated:`. -/
def readHeader (body : List Char) : Except LineCause Declaration :=
  if body.getLast? != some ':' then .error .missingColon
  else do
    let (human, obfuscated) ← cutArrow body.dropLast
    if human.any Text.isBlank then .error .blankInClassName
    else .ok (.header (String.ofList human) (String.ofList obfuscated))

/-- Reads `type human -> obfuscated`. -/
def readField (body : List Char) : Except LineCause Declaration := do
  let (declared, obfuscated) ← cutArrow body
  match Text.words declared with
  | [type, human] =>
    .ok (.field (String.ofList type) (String.ofList human) (String.ofList obfuscated))
  | _ => .error (.notTypeAndName (String.ofList declared))

/-- The rest behind a line number and a colon. -/
def dropLineNumber? (cs : List Char) : Option (List Char) :=
  if (cs.takeWhile Char.isDigit).isEmpty then none
  else match cs.dropWhile Char.isDigit with
    | ':' :: rest => some rest
    | _ => none

/-- The rest behind two line numbers, each with its colon. -/
def dropLineRange? (cs : List Char) : Option (List Char) :=
  (dropLineNumber? cs).bind dropLineNumber?

/-- Whether `cs` is empty, or a row of line numbers with a colon before each. -/
def isLineSuffix : List Char → Bool
  | [] => true
  | ':' :: rest =>
    (rest.splitOnP (· == ':')).all fun number => !number.isEmpty && number.all Char.isDigit
  | _ => false

/-- The types of a parameter list. A list that is blank has none. -/
def readParams (body : List Char) : Except LineCause (List String) :=
  let body := Text.trim body
  if body.isEmpty then .ok []
  else
    let params := (body.splitOnP (· == ',')).map Text.trim
    if params.any List.isEmpty then .error .emptyParameter
    else .ok (params.map String.ofList)

/-- Reads `result human(params)`, with line numbers behind it or not, and gives what is declared
once the obfuscated name is known. -/
def readCallable (declared : List Char) : Except LineCause (String → Declaration) :=
  match Text.cutFirst? ['('] declared with
  | none => .error .missingOpening
  | some (head, rest) =>
    match Text.cutLast? [')'] rest with
    | none => .error .missingClosing
    | some (body, suffix) =>
      if !isLineSuffix suffix then .error .dataBehindParameters
      else match Text.words head with
        | [result, human] =>
          (readParams body).map (.method (String.ofList result) (String.ofList human))
        | _ => .error .notResultAndName

/-- Reads `result human(params) -> obfuscated`, behind a range of line numbers if it starts with a
digit. -/
def readMethod (body : List Char) : Except LineCause Declaration := do
  let body ←
    if body.head?.any Char.isDigit then
      match dropLineRange? body with
      | some rest => .ok rest
      | none => .error .malformedRange
    else .ok body
  let (declared, obfuscated) ← cutArrow body
  let declare ← readCallable declared
  return declare (String.ofList obfuscated)

/-- Reads a line of a mapping. -/
def read (line : String) : Except LineFault Declaration :=
  let cs := line.toList
  let body := Text.trim cs
  if !cs.head?.any Text.isBlank then
    (readHeader body).mapError (LineFault.mk .classHeader)
  else if body.contains '(' || body.head?.any Char.isDigit then
    (readMethod body).mapError (LineFault.mk .methodEntry)
  else
    (readField body).mapError (LineFault.mk .fieldEntry)

end Declaration

end NameCarry
