import NameCarry.Descriptor.TypeRef
import NameCarry.Fault
import NameCarry.Identifier
import Std.Data.TreeMap

/-!
# Registries

A registry holds the classes of a build and finds them by each of their three names. A name may
occur more than once; the class that is declared first is then the one that is found. Community
names are kept as they were given and found by their dotted form.

Each kind of name has a table from the name to the number of the first class that bears it.
`Registry.ofClasses` fills the tables, and linking a class, the one operation that changes a class
name, brings the table of community names up to date without going through all classes again.
-/

namespace NameCarry

/-- For each name, the number of the first class that bears it. -/
abbrev NameTable :=
  Std.TreeMap String Nat

namespace NameTable

/-- The table of the names that `key` gives the classes. -/
def ofClasses (key : ClassDecl → Option String) (classes : Array ClassDecl) : NameTable :=
  classes.toList.zipIdx.foldl (fun table (cls, number) =>
    match key cls with
    | some name => table.insertIfNew name number
    | none => table) ∅

section

variable (table : NameTable) (key : ClassDecl → Option String) (classes : Array ClassDecl)
  (name : String) (number : Nat)

/-- Enters a class under a name, unless an earlier class is there that bears it. -/
def claim : NameTable :=
  match table[name]? with
  | some holder =>
    if holder < number && classes[holder]?.bind key == some name then table
    else table.insert name number
  | none => table.insert name number

/-- Takes a class off a name that it no longer bears. Another class that bears the name takes its
place. -/
def release : NameTable :=
  if table[name]? == some number then
    match classes.findIdx? (fun cls => key cls == some name) with
    | some next => table.insert name next
    | none => table.erase name
  else table

end

end NameTable

/-- The classes of a build, to be found by their names. -/
structure Registry where
  /-- The classes, in the order of their declaration. -/
  classes : Array ClassDecl
  /-- The obfuscated names. -/
  byObfuscated : NameTable
  /-- The human names. -/
  byHuman : NameTable
  /-- The dotted community names. -/
  byCommunity : NameTable

namespace Registry

/-- The registry of the given classes. -/
def ofClasses (classes : Array ClassDecl) : Registry where
  classes
  byObfuscated := .ofClasses (fun cls => some cls.identity.obfuscated) classes
  byHuman := .ofClasses (fun cls => cls.identity.human) classes
  byCommunity := .ofClasses ClassDecl.communityKey classes

/-- The first class with the given obfuscated name. -/
def obfuscatedClass? (registry : Registry) (name : String) : Option ClassDecl :=
  registry.byObfuscated[name]?.bind (registry.classes[·]?)

/-- The first class with the given human name. -/
def humanClass? (registry : Registry) (name : String) : Option ClassDecl :=
  registry.byHuman[name]?.bind (registry.classes[·]?)

/-- The number of the first class whose community name has the same dotted form as the given name.
-/
def communityNumber? (registry : Registry) (name : String) : Option Nat :=
  registry.byCommunity[Text.dotted name]?

/-- The first class whose community name has the same dotted form as the given name. -/
def communityClass? (registry : Registry) (name : String) : Option ClassDecl :=
  (registry.communityNumber? name).bind (registry.classes[·]?)

/-- Gives the class with the given number a community name, in place of the one it had. -/
def nameClass (registry : Registry) (number : Nat) (community : String) : Registry :=
  let ⟨classes, byObfuscated, byHuman, byCommunity⟩ := registry
  let previous := classes[number]?.bind ClassDecl.communityKey
  let classes := classes.modify number fun cls =>
    { cls with identity := cls.identity.link community }
  let byCommunity := match previous with
    | some name => byCommunity.release ClassDecl.communityKey classes name number
    | none => byCommunity
  let byCommunity := byCommunity.claim ClassDecl.communityKey classes (Text.dotted community) number
  { classes, byObfuscated, byHuman, byCommunity }

@[simp]
theorem classes_ofClasses (classes : Array ClassDecl) : (ofClasses classes).classes = classes :=
  rfl

/-- Naming a class touches its own community name only. -/
@[simp]
theorem classes_nameClass (registry : Registry) (number : Nat) (community : String) :
    (registry.nameClass number community).classes =
      registry.classes.modify number fun cls =>
        { cls with identity := cls.identity.link community } :=
  rfl

/-- Gives the class with the given obfuscated name a community name. -/
def linkClass (registry : Registry) (obfuscated community : String) : Except Fault Registry :=
  match registry.byObfuscated[obfuscated]? with
  | some number => .ok (registry.nameClass number community)
  | none => .error (.unknownClass "obfuscated" obfuscated)

end Registry

end NameCarry
