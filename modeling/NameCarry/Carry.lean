import NameCarry.Loading
import NameCarry.Registry.Basic

/-!
# Carrying names onto a new build

The obfuscated names of two builds have nothing to do with each other, but the human names stay.
While the mapping of the new build is read, each of its identifiers takes the community name of its
namesake in the old build. Classes are matched by their human name. Members are matched within the
old class of the same human name: fields by human name and type, methods by human name, parameters
and result type.

A field whose type has changed is taken for another field. It gets no name from its namesake, and
the change is noted.
-/

namespace NameCarry

/-- What was carried so far. -/
structure Tally where
  /-- The number of classes that got a community name. -/
  classes : Nat := 0
  /-- The number of members that got a community name. -/
  members : Nat := 0
  /-- The number of old fields that were passed over because of their type. -/
  retyped : Nat := 0
  deriving DecidableEq, Repr

namespace Registry

/-- The old class with the human name of `cls`. -/
def namesake? (old : Registry) (cls : Identifier) : Option ClassDecl :=
  cls.human.bind old.humanClass?

/-- The community name that a class of the new build takes. -/
def carriedClassName? (old : Registry) (cls : Identifier) : Option String :=
  (old.namesake? cls).bind (·.identity.community)

/-- The community name that a method of the new build takes, from the first method of the old class
that has its signature. If that one is not linked, there is no name to take. -/
def carriedMethodName? (old : Registry) (owner method : Identifier) : Option String :=
  ((old.namesake? owner).bind fun cls => cls.methods.find? (·.sameSignature method)).bind
    (·.community)

/-- Names a class of the new build, and counts it if it gets a name. -/
def carryClass (old : Registry) (cls : Identifier) (tally : Tally) :
    Noted (Option String × Tally) :=
  match old.carriedClassName? cls with
  | some name => pure (some name, { tally with classes := tally.classes + 1 })
  | none => pure (none, tally)

/-- Goes through fields of an old class until one gives its community name to a field of the new
build. Only a linked field of the same human name and type can do so. One of another type is noted
and counted, and one that is not linked is passed over. -/
def visitFields (owner field : Identifier) : List Identifier → Tally →
    Noted (Option String × Tally)
  | [], tally => return (none, tally)
  | candidate :: rest, tally =>
    if candidate.human != field.human then visitFields owner field rest tally
    else if candidate.type != field.type then do
      Noted.note (.fieldRetyped owner.displayName field.displayName candidate.displayType
        field.displayType)
      visitFields owner field rest { tally with retyped := tally.retyped + 1 }
    else
      match candidate.community with
      | some name => do
        Noted.note
          (.fieldCarried owner.displayName field.obfuscated (field.human.getD "<none>") name)
        return (some name, { tally with members := tally.members + 1 })
      | none => visitFields owner field rest tally

/-- Names a field of the new build, and counts it if it gets a name. -/
def carryField (old : Registry) (owner field : Identifier) (tally : Tally) :
    Noted (Option String × Tally) :=
  match old.namesake? owner with
  | some cls => visitFields owner field cls.fields tally
  | none => return (none, tally)

/-- Names a method of the new build, and counts it if it gets a name. -/
def carryMethod (old : Registry) (owner method : Identifier) (tally : Tally) :
    Noted (Option String × Tally) :=
  match old.carriedMethodName? owner method with
  | some name => pure (some name, { tally with members := tally.members + 1 })
  | none => pure (none, tally)

/-- Names the identifiers of a new build after those of an old one. -/
def carrier (old : Registry) : Annotator Tally where
  forClass := old.carryClass
  forField := old.carryField
  forMethod := old.carryMethod

end Registry

/-- Loads the mapping of a new build and carries the names of the old one onto it. -/
def loadCarried (old : Registry) (label : String) (report : Report) (text : String) :
    Noted (Array ClassDecl × Tally × Report) := do
  let pass ← Attempt.readText (Attempt.loadLine label old.carrier) { state := {} } report text
  return (pass.state.classes, pass.state.state, pass.report)

end NameCarry
