import NameCarry.Text.Quoted

/-!
# JSON values

The settings of a run can be given as a JSON value, and its summary is written as one.
`Json.pretty` writes a value over several lines, with two spaces for each level of depth.
-/

namespace NameCarry

/-- A JSON value. -/
inductive Json where
  | null
  | bool (value : Bool)
  /-- A number, by its digits as they are written. -/
  | number (digits : String)
  | string (text : String)
  | array (items : List Json)
  /-- An object, with its members in the order in which they are written. -/
  | object (members : List (String × Json))
  deriving Inhabited

namespace Json

/-- A natural number. -/
def ofNat (n : Nat) : Json :=
  number (toString n)

/-- The value of the first member of the given name. -/
def member? (name : String) (members : List (String × Json)) : Option Json :=
  (members.find? (·.1 == name)).map (·.2)

/-- The text of a string value. -/
def asString? : Json → Option String
  | string text => some text
  | _ => none

/-- The texts of an array of string values. -/
def asStrings? : Json → Option (List String)
  | array items => items.mapM asString?
  | _ => none

/-- A hexadecimal number of four digits. -/
def fourDigits (n : Nat) : String :=
  let digits := Nat.toDigits 16 n
  String.ofList (List.replicate (4 - digits.length) '0' ++ digits)

/-- How a character is written within a string. Only the double quote, the backslash and the control
characters below the space are escaped. -/
def escaped (c : Char) : String :=
  match c with
  | '"' => "\\\""
  | '\\' => "\\\\"
  | '\n' => "\\n"
  | '\r' => "\\r"
  | '\t' => "\\t"
  | '\x08' => "\\b"
  | '\x0c' => "\\f"
  | _ => if c.toNat < 0x20 then "\\u" ++ fourDigits c.toNat else c.toString

/-- A string between double quotes. -/
def quoted (text : String) : String :=
  "\"" ++ String.join (text.toList.map escaped) ++ "\""

/-- The start of a line at the given depth. -/
def lineStart (depth : Nat) : String :=
  "\n" ++ String.join (List.replicate depth "  ")

/-- Puts the written parts of a value on lines of their own, between the two brackets. -/
def block (opening closing : String) (depth : Nat) (parts : List String) : String :=
  if parts.isEmpty then opening ++ closing
  else
    opening ++ lineStart (depth + 1) ++ ("," ++ lineStart (depth + 1)).intercalate parts ++
      lineStart depth ++ closing

mutual

/-- Writes a value that starts at the given depth. -/
def prettyAt (depth : Nat) : Json → String
  | null => "null"
  | bool value => if value then "true" else "false"
  | number digits => digits
  | string text => quoted text
  | array items => block "[" "]" depth (prettyItems (depth + 1) items)
  | object members => block Text.openBrace Text.closeBrace depth (prettyMembers (depth + 1) members)

/-- Writes the items of an array. -/
def prettyItems (depth : Nat) : List Json → List String
  | [] => []
  | item :: items => prettyAt depth item :: prettyItems depth items

/-- Writes the members of an object. -/
def prettyMembers (depth : Nat) : List (String × Json) → List String
  | [] => []
  | (name, value) :: members =>
    (quoted name ++ ": " ++ prettyAt depth value) :: prettyMembers depth members

end

/-- Writes a value over several lines. -/
def pretty (value : Json) : String :=
  prettyAt 0 value

end Json

end NameCarry
