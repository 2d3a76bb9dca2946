import NameCarry.Descriptor.Reader

/-!
# Method signatures

A method is told from others of the same name by its parameter types and its result type. A method
descriptor holds both: the descriptors of the parameters in a row, between parentheses, and the
descriptor of the result behind them. `Signature.read` and `Signature.descriptor` go from the
descriptor to the type names and back.
-/

namespace NameCarry

/-- The types of a method, by their names. -/
structure Signature where
  /-- The names of the parameter types, in order. -/
  params : List String
  /-- The name of the result type. -/
  result : String
  deriving DecidableEq, Repr

/-- The descriptor of the type with the given name. Nothing is written for an empty name. -/
def describeType (name : String) : String :=
  if name.isEmpty then "" else (TypeRef.ofName name).descriptor

namespace Signature

/-- The method descriptor of a signature. -/
def descriptor (signature : Signature) : String :=
  "(" ++ String.join (signature.params.map describeType) ++ ")" ++ describeType signature.result

/-- The signature that a method descriptor stands for. The parameters end at the first closing
parenthesis. A fault of a parameter shows the text between the parentheses, and a fault of the
result the text behind them. -/
def read (descriptor : String) : Except DescriptorFault Signature :=
  match descriptor.toList with
  | '(' :: cs =>
    match Text.cutFirst? [')'] cs with
    | none => .error { descriptor, cause := .unterminatedParameters }
    | some (body, rest) => do
      let params ← TypeRef.readList (String.ofList body)
      let result ← TypeRef.read (String.ofList rest)
      return { params := params.map TypeRef.name, result := result.name }
  | _ => .error { descriptor, cause := .missingParameters }

end Signature

end NameCarry
