import NameCarry.Text.Blank

/-!
# Lines of a text

A line ends behind a line feed, and the last one at the end of the text. The line feed, with one
carriage return before it, is the line's end and not part of its content; a carriage return at the
very end of the text, with no line feed behind it, stays. A text that ends with a line feed has no
empty line after it. Lines that are blank or start with `#` are skipped, but counted.

Nothing is lost when a text is cut into lines with their ends (`flatten_linesWithEnds`).
-/

namespace NameCarry.Text

/-- Puts a character before the lines of a text. A line feed is a line of its own; any other
character belongs to the first line. -/
def consLine (c : Char) (lines : List (List Char)) : List (List Char) :=
  if c = '\n' then [c] :: lines
  else match lines with
    | [] => [[c]]
    | line :: rest => (c :: line) :: rest

/-- The lines of a text, each with its end. -/
def linesWithEnds (text : List Char) : List (List Char) :=
  text.foldr consLine []

/-- A line without a carriage return at its end. -/
def dropCarriageReturn (line : List Char) : List Char :=
  if line.getLast? = some '\r' then line.dropLast else line

/-- The content of a line that is given with its end. -/
def dropLineEnd (line : List Char) : List Char :=
  if line.getLast? = some '\n' then dropCarriageReturn line.dropLast else line

/-- The lines of a text, without their ends. -/
def lines (text : List Char) : List (List Char) :=
  (linesWithEnds text).map dropLineEnd

/-- The lines of a string, as strings. -/
def linesOf (text : String) : List String :=
  (lines text.toList).map String.ofList

/-- Whether a line carries no content: it is blank, or its first character is `#`. -/
def isIgnored (line : String) : Bool :=
  line.toList.all isBlank || line.toList.head? == some '#'

/-- The lines that carry content, each with its number; the first line has number 1. -/
def contentLines (text : String) : List (Nat × String) :=
  ((linesOf text).zipIdx 1).filterMap fun (line, number) =>
    if isIgnored line then none else some (number, line)

@[simp]
theorem flatten_consLine (c : Char) (lines : List (List Char)) :
    (consLine c lines).flatten = c :: lines.flatten := by
  unfold consLine
  split
  · rfl
  · cases lines <;> rfl

/-- Nothing is lost when a text is cut into lines with their ends. -/
@[simp]
theorem flatten_linesWithEnds (text : List Char) : (linesWithEnds text).flatten = text := by
  induction text with
  | nil => rfl
  | cons c cs ih =>
    rw [linesWithEnds, List.foldr_cons, flatten_consLine]
    exact congrArg (c :: ·) ih

end NameCarry.Text
