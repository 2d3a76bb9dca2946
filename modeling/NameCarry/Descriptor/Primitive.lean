/-!
# Primitive types

The nine types that are no classes. Each has a name, as it stands in source text, and a code of one
letter, as it stands in a type descriptor. A primitive can be found again by either of them.
-/

namespace NameCarry

/-- A primitive type, or the type `void` of a method without a result. -/
inductive Primitive where
  | int
  | boolean
  | double
  | long
  | float
  | byte
  | void
  | short
  | char
  deriving DecidableEq, Repr

namespace Primitive

/-- All primitive types. -/
def all : List Primitive := [int, boolean, double, long, float, byte, void, short, char]

/-- The letter that stands for the type in a descriptor. -/
def code : Primitive → Char
  | int => 'I'
  | boolean => 'Z'
  | double => 'D'
  | long => 'J'
  | float => 'F'
  | byte => 'B'
  | void => 'V'
  | short => 'S'
  | char => 'C'

/-- The name of the type in source text. -/
def name : Primitive → String
  | int => "int"
  | boolean => "boolean"
  | double => "double"
  | long => "long"
  | float => "float"
  | byte => "byte"
  | void => "void"
  | short => "short"
  | char => "char"

/-- The primitive type with the given code, if there is one. -/
def ofCode? (c : Char) : Option Primitive :=
  all.find? (·.code == c)

/-- The primitive type with the given name, if there is one. -/
def ofName? (n : String) : Option Primitive :=
  all.find? (·.name == n)

@[simp]
theorem ofCode?_code (p : Primitive) : ofCode? p.code = some p := by
  cases p <;> rfl

@[simp]
theorem ofName?_name (p : Primitive) : ofName? p.name = some p := by
  cases p <;> decide +kernel

/-- A code belongs to one type only. -/
theorem ofCode?_eq_some_iff {c : Char} {p : Primitive} : ofCode? c = some p ↔ p.code = c := by
  refine ⟨fun h => ?_, fun h => h ▸ ofCode?_code p⟩
  simpa using List.find?_some h

/-- A name belongs to one type only. -/
theorem ofName?_eq_some_iff {n : String} {p : Primitive} : ofName? n = some p ↔ p.name = n := by
  refine ⟨fun h => ?_, fun h => h ▸ ofName?_name p⟩
  simpa using List.find?_some h

end Primitive

end NameCarry
