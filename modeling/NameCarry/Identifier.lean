import NameCarry.Text.Dotted

/-!
# Identifiers and classes

An identifier is a class, a field or a method of one build. It has an obfuscated name, which that
build alone gives it; a human name, which it keeps from build to build; and, once it is linked, a
community name. A class declaration holds the identifier of the class and those of its members.
-/

namespace NameCarry

/-- A class, a field or a method with the names it goes by. -/
structure Identifier where
  /-- The name in the obfuscated build. -/
  obfuscated : String
  /-- The readable name, if it is known. -/
  human : Option String := none
  /-- The name that the community gives it, once it is linked. -/
  community : Option String := none
  /-- The human names of the parameter types of a method. -/
  params : List String := []
  /-- The human name of the type of a field, or of the result type of a method. -/
  type : Option String := none
  deriving DecidableEq, Repr

namespace Identifier

/-- A class, not yet linked. -/
def ofClass (obfuscated human : String) : Identifier :=
  { obfuscated, human := some human }

/-- A field, not yet linked. -/
def ofField (obfuscated human type : String) : Identifier :=
  { obfuscated, human := some human, type := some type }

/-- A method, not yet linked. -/
def ofMethod (obfuscated human : String) (params : List String) (result : String) : Identifier :=
  { obfuscated, human := some human, params, type := some result }

/-- The identifier under the given community name. Its other names and its types stay. -/
def link (id : Identifier) (community : String) : Identifier :=
  { id with community := some community }

/-- The identifier under the given community name, or as it is if there is none. -/
def linkTo (id : Identifier) (community? : Option String) : Identifier :=
  { id with community := community?.or id.community }

/-- Whether the identifier has a community name. -/
def isLinked (id : Identifier) : Bool :=
  id.community.isSome

/-- The parameter types in a row, with commas between them. -/
def joinedParams (id : Identifier) : String :=
  ",".intercalate id.params

/-- Whether two identifiers agree on human name, type and parameters, as one method of two builds
does. -/
def sameSignature (a b : Identifier) : Bool :=
  a.human == b.human && a.type == b.type && a.params == b.params

/-- The name to show to a reader: the human name, or the obfuscated name without one. -/
def displayName (id : Identifier) : String :=
  id.human.getD id.obfuscated

/-- The type to show to a reader. -/
def displayType (id : Identifier) : String :=
  id.type.getD "<none>"

end Identifier

/-- A class with its fields and methods, each in the order of their declaration. Methods may share
an obfuscated name and differ in their types only. -/
structure ClassDecl where
  /-- The class itself. -/
  identity : Identifier
  /-- The fields of the class. -/
  fields : List Identifier := []
  /-- The methods of the class. -/
  methods : List Identifier := []
  deriving DecidableEq, Repr

namespace ClassDecl

/-- The number of fields and methods. -/
def memberCount (c : ClassDecl) : Nat :=
  c.fields.length + c.methods.length

/-- The first field with the given obfuscated name. -/
def field? (c : ClassDecl) (obfuscated : String) : Option Identifier :=
  c.fields.find? (·.obfuscated == obfuscated)

/-- The methods with the given obfuscated name. -/
def overloads (c : ClassDecl) (obfuscated : String) : List Identifier :=
  c.methods.filter (·.obfuscated == obfuscated)

/-- The dotted form of the class's community name, under which it is looked up. -/
def communityKey (c : ClassDecl) : Option String :=
  c.identity.community.map Text.dotted

end ClassDecl

/-- The number of members in a build. -/
def memberCount (classes : Array ClassDecl) : Nat :=
  classes.foldl (fun count cls => count + cls.memberCount) 0

end NameCarry
