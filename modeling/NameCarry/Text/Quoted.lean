import NameCarry.Text.Extending
import NameCarry.Text.Ignorable
import NameCarry.Text.Unprintable

/-!
# Quoted texts

Messages show a text between double quotes, so that its ends and its invisible characters can be
seen. A double quote, a backslash, a tab, a line end and a null character have a short escape of
their own. Any other character that has no glyph, that leaves nothing to be seen, or that would be
drawn over the one before it, is written by its code point in lower case hexadecimal digits between
braces. All else stands for itself, an apostrophe included.
-/

namespace NameCarry.Text

/-- The opening brace. A brace within a literal would read as an inserted value. -/
def openBrace : String := "\x7b"

/-- The closing brace. -/
def closeBrace : String := "\x7d"

/-- Whether `c` is one of the two sound marks of halfwidth katakana. They extend the character
before them, but stand beside it in a cell of their own. -/
def isSoundMark (c : Char) : Bool :=
  c == '\uFF9E' || c == '\uFF9F'

/-- Whether `c` is hidden within a text: it has no glyph, leaves nothing to be seen, or is drawn
over its neighbour. Of the ASCII characters only the control characters are hidden. -/
def isHidden (c : Char) : Bool :=
  if c.toNat < 0x7F then c.toNat < 0x20
  else isUnprintable c || isIgnorable c || (isExtending c && !isSoundMark c)

/-- The escape that names a character by its code point. -/
def codePointEscape (c : Char) : String :=
  "\\u" ++ openBrace ++ String.ofList (Nat.toDigits 16 c.toNat) ++ closeBrace

/-- How a character is written within a quoted text. -/
def escaped (c : Char) : String :=
  match c with
  | '\x00' => "\\0"
  | '\t' => "\\t"
  | '\r' => "\\r"
  | '\n' => "\\n"
  | '"' => "\\\""
  | '\\' => "\\\\"
  | _ => if isHidden c then codePointEscape c else c.toString

/-- A text between double quotes, with its hidden characters escaped. -/
def quoted (text : String) : String :=
  "\"" ++ String.join (text.toList.map escaped) ++ "\""

/-- A named record with text fields, each field written as its name and its quoted value. -/
def quotedRecord (name : String) (fields : List (String × String)) : String :=
  name ++ " " ++ openBrace ++ " " ++
    ", ".intercalate (fields.map fun (field, value) => field ++ ": " ++ quoted value) ++
    " " ++ closeBrace

end NameCarry.Text
