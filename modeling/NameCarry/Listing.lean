import NameCarry.Exclusion
import NameCarry.Registry.Types

/-!
# Listings

The names of a build are written as lists of lines in the formats of the link files. Every list is
in the order of its lines as texts, so it does not depend on the order of the classes in the build.
-/

namespace NameCarry

/-- The lines in increasing order, compared character by character. -/
def sortLines (lines : List String) : List String :=
  lines.mergeSort fun a b => decide (a ≤ b)

/-- The text in which each line ends with a line feed. -/
def joinLines (lines : List String) : String :=
  String.join (lines.map (· ++ "\n"))

namespace Registry

/-- The class link of a linked class. -/
def classLinkLine? (cls : ClassDecl) : Option String :=
  cls.identity.community.map fun name => cls.identity.obfuscated ++ " " ++ name

/-- The class links of the linked classes. -/
def classLinkLines (registry : Registry) : List String :=
  sortLines (registry.classes.toList.filterMap classLinkLine?)

/-- The member link of a linked field, in the class with the given community name. -/
def fieldLinkLine? (owner : String) (field : Identifier) : Option String :=
  field.community.map fun name => owner ++ " " ++ field.obfuscated ++ " " ++ name

/-- The member link of a linked method, in the class with the given community name. -/
def methodLinkLine? (registry : Registry) (owner : String) (method : Identifier) : Option String :=
  method.community.map fun name =>
    let signature : Signature := { params := method.params, result := method.type.getD "" }
    owner ++ " " ++ method.obfuscated ++ " " ++
      (registry.toWrittenSignature signature).descriptor ++ " " ++ name

/-- The member links of a class. A class that is not linked has none. -/
def memberLinksOf (registry : Registry) (cls : ClassDecl) : List String :=
  match cls.identity.community with
  | none => []
  | some owner =>
    cls.methods.filterMap (registry.methodLinkLine? owner) ++
      cls.fields.filterMap (fieldLinkLine? owner)

/-- The member links of the linked members of linked classes. -/
def memberLinkLines (registry : Registry) : List String :=
  sortLines (registry.classes.toList.flatMap registry.memberLinksOf)

end Registry

/-- The lines of an exclusion list that is to be written. -/
def Exclusion.listing (exclusions : List Exclusion) : List String :=
  sortLines (exclusions.map Exclusion.line)

end NameCarry
