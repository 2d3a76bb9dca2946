import NameCarry.Descriptor.Signature
import NameCarry.Registry.Basic

/-!
# Type names from one naming to another

A type name is the name of a class or a primitive type with array dimensions behind it. Only the
class is renamed, and the dimensions stay. A name that the registry does not know stays as it is,
and so do the primitive types.
-/

namespace NameCarry.Registry

/-- The human name of a type that is given by its community name. -/
def toHumanType (registry : Registry) (name : String) : String :=
  let (base, depth) := splitDimensions name
  match (registry.communityClass? base).bind (·.identity.human) with
  | some human => withDimensions human depth
  | none => name

/-- The name under which a type that is given by its human name is written out: the community name
of the class if it is linked, and its obfuscated name if not. -/
def toWrittenType (registry : Registry) (name : String) : String :=
  let (base, depth) := splitDimensions name
  match registry.humanClass? base with
  | some cls => withDimensions (cls.identity.community.getD cls.identity.obfuscated) depth
  | none => name

/-- The signature with its types turned from community names to human names. -/
def toHumanSignature (registry : Registry) (signature : Signature) : Signature :=
  { params := signature.params.map registry.toHumanType
    result := registry.toHumanType signature.result }

/-- The signature with its types turned from human names to the names that are written out. -/
def toWrittenSignature (registry : Registry) (signature : Signature) : Signature :=
  { params := signature.params.map registry.toWrittenType
    result := registry.toWrittenType signature.result }

end NameCarry.Registry
