import NameCarry.Descriptor.TypeRef
import NameCarry.Text.Cut

/-!
# Reading type descriptors

A descriptor is a run of opening brackets, one for each array dimension, and a base type behind it:
a letter that is the code of a primitive type, or a class name between `L` and the next `;`.
Descriptors can be told apart without separators, so a list of types is written as their descriptors
in a row.

`TypeRef.next` reads the first type of a text and gives back the rest, which is shorter
(`TypeRef.length_lt_of_next`); `TypeRef.read` reads a whole text as one type, and `TypeRef.readList`
as a list of them.
-/

namespace NameCarry

/-- What is wrong with a descriptor. -/
inductive DescriptorCause where
  /-- The text ends where a base type should stand. -/
  | missingBase
  /-- A class name has no `;` behind it. -/
  | unterminatedObject
  /-- A class name is empty. -/
  | emptyObject
  /-- A letter is neither `L` nor the code of a primitive type. -/
  | unknownBase
  /-- Something stands behind the one type that was expected. -/
  | trailingData
  /-- A method descriptor does not start with its parameters. -/
  | missingParameters
  /-- The parameters of a method descriptor have no end. -/
  | unterminatedParameters
  deriving DecidableEq, Repr

/-- The cause in words. -/
def DescriptorCause.message : DescriptorCause → String
  | missingBase => "missing terminal type"
  | unterminatedObject => "unterminated object type"
  | emptyObject => "empty object type"
  | unknownBase => "unknown terminal type"
  | trailingData => "trailing data after type"
  | missingParameters => "method descriptor must start with '('"
  | unterminatedParameters => "unterminated parameter list"

/-- A text that is no descriptor. -/
structure DescriptorFault where
  /-- The text that was read. -/
  descriptor : String
  /-- What is wrong with it. -/
  cause : DescriptorCause
  deriving DecidableEq, Repr

namespace BaseType

/-- Reads the base type at the start of `cs`, and gives the rest behind it. -/
def next : List Char → Except DescriptorCause (BaseType × List Char)
  | [] => .error .missingBase
  | 'L' :: cs =>
    match Text.cutFirst? [';'] cs with
    | none => .error .unterminatedObject
    | some ([], _) => .error .emptyObject
    | some (name, rest) => .ok (object (String.ofList (name.map Text.dotForSlash)), rest)
  | c :: cs =>
    match Primitive.ofCode? c with
    | none => .error .unknownBase
    | some type => .ok (primitive type, cs)

/-- Reading a base type uses up some of the text. -/
theorem length_lt_of_next {cs rest : List Char} {base : BaseType}
    (h : next cs = .ok (base, rest)) : rest.length < cs.length := by
  unfold next at h
  split at h
  · cases h
  · next cs =>
    split at h <;> cases h
    next hcut =>
      have := congrArg List.length (Text.append_of_cutFirst? hcut)
      simp at this ⊢
      omega
  · split at h <;> cases h
    simp

end BaseType

namespace TypeRef

/-- Reads the type at the start of `cs`, and gives the rest behind it. -/
def next (cs : List Char) : Except DescriptorCause (TypeRef × List Char) :=
  (BaseType.next (cs.dropWhile (· == '['))).map fun (base, rest) =>
    ({ depth := (cs.takeWhile (· == '[')).length, base }, rest)

/-- Reading a type uses up some of the text. -/
theorem length_lt_of_next {cs rest : List Char} {type : TypeRef}
    (h : next cs = .ok (type, rest)) : rest.length < cs.length := by
  unfold next at h
  cases hb : BaseType.next (cs.dropWhile (· == '[')) with
  | error e => simp [hb, Except.map] at h
  | ok r =>
    simp only [hb, Except.map, Except.ok.injEq, Prod.mk.injEq] at h
    have hlt : r.2.length < _ := BaseType.length_lt_of_next hb
    have hle : (cs.dropWhile (· == '[')).length ≤ _ := (List.dropWhile_sublist _).length_le
    rw [← h.2]
    omega

/-- Reads a text that is one type and nothing else. -/
def readOne (cs : List Char) : Except DescriptorCause TypeRef :=
  match next cs with
  | .error cause => .error cause
  | .ok (type, []) => .ok type
  | .ok (_, _ :: _) => .error .trailingData

/-- Reads a text that is a row of types. -/
def readAll (cs : List Char) : Except DescriptorCause (List TypeRef) :=
  match cs with
  | [] => .ok []
  | c :: cs =>
    match _h : next (c :: cs) with
    | .error cause => .error cause
    | .ok (type, rest) => (readAll rest).map (type :: ·)
termination_by cs.length
decreasing_by exact length_lt_of_next ‹_›

/-- The type that a descriptor stands for. -/
def read (descriptor : String) : Except DescriptorFault TypeRef :=
  (readOne descriptor.toList).mapError fun cause => { descriptor, cause }

/-- The types that a row of descriptors stands for. A fault shows the whole row. -/
def readList (body : String) : Except DescriptorFault (List TypeRef) :=
  (readAll body.toList).mapError fun cause => { descriptor := body, cause }

end TypeRef

end NameCarry
