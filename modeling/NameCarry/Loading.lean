import NameCarry.Attempt
import NameCarry.Declaration
import NameCarry.Identifier

/-!
# Loading a mapping

A mapping is loaded line by line. A class header opens a class, and the members on the lines behind
it go to that class. A header whose human name ends in `package-info` stands for no class: it and
the members behind it are dropped. Members before any header are refused.

While an identifier is read, an annotator may give it a community name. The annotator sees the
identifier and, for a member, the class it belongs to, and may keep a state of its own.
-/

namespace NameCarry

/-- Gives identifiers a community name while they are read, and keeps a state. -/
structure Annotator (σ : Type) where
  /-- The community name of a class. -/
  forClass (cls : Identifier) (state : σ) : Noted (Option String × σ)
  /-- The community name of a field. -/
  forField (owner field : Identifier) (state : σ) : Noted (Option String × σ)
  /-- The community name of a method. -/
  forMethod (owner method : Identifier) (state : σ) : Noted (Option String × σ)

/-- Gives no names. -/
def Annotator.none : Annotator Unit where
  forClass _ _ := pure (.none, ())
  forField _ _ _ := pure (.none, ())
  forMethod _ _ _ := pure (.none, ())

/-- The class whose members are being read. -/
structure OpenClass where
  /-- The class itself. -/
  identity : Identifier
  /-- The fields so far, the last one first. -/
  fields : List Identifier := []
  /-- The methods so far, the last one first. -/
  methods : List Identifier := []
  deriving DecidableEq, Repr

/-- The class as it is when no more members follow. -/
def OpenClass.close (current : OpenClass) : ClassDecl :=
  { identity := current.identity
    fields := current.fields.reverse
    methods := current.methods.reverse }

/-- Where the next member goes. -/
inductive Scope where
  /-- No class was opened yet. -/
  | outside
  /-- The last header stands for no class. -/
  | dropped
  /-- A class is open. -/
  | inside (current : OpenClass)
  deriving DecidableEq, Repr

/-- What was read of a mapping. -/
structure Loading (σ : Type) where
  /-- The classes that are complete. -/
  closed : Array ClassDecl := #[]
  /-- Where the next member goes. -/
  scope : Scope := .outside
  /-- The state of the annotator. -/
  state : σ

namespace Loading

variable {σ : Type}

/-- The ending of a human name that marks a header without a class. -/
def packageMarker : String := "package-info"

/-- Whether a header with the given human name stands for no class. -/
def isPackageMarker (human : String) : Bool :=
  packageMarker.toList.isSuffixOf human.toList

/-- The classes that were read, in the order of their headers. -/
def classes (loading : Loading σ) : Array ClassDecl :=
  match loading.scope with
  | .inside current => loading.closed.push current.close
  | _ => loading.closed

/-- Closes the open class, if there is one, and drops the members that follow. -/
def dropMembers (loading : Loading σ) : Loading σ :=
  { loading with closed := loading.classes, scope := .dropped }

/-- Opens a class, and closes the one before it. -/
def openClass (label : String) (annotator : Annotator σ) (human obfuscated : String)
    (loading : Loading σ) : Noted (Loading σ) := do
  Noted.note (.classRead label obfuscated human)
  let cls := Identifier.ofClass obfuscated human
  let (name, state) ← annotator.forClass cls loading.state
  return { closed := loading.classes, scope := .inside { identity := cls.linkTo name }, state }

/-- Adds a field to the open class. -/
def addField (annotator : Annotator σ) (field : Identifier) (current : OpenClass) (state : σ) :
    Noted (OpenClass × σ) := do
  let (name, state) ← annotator.forField current.identity field state
  return ({ current with fields := field.linkTo name :: current.fields }, state)

/-- Adds a method to the open class. -/
def addMethod (annotator : Annotator σ) (method : Identifier) (current : OpenClass) (state : σ) :
    Noted (OpenClass × σ) := do
  let (name, state) ← annotator.forMethod current.identity method state
  return ({ current with methods := method.linkTo name :: current.methods }, state)

/-- Adds a member where the scope puts it. A member outside of any class is refused. -/
def addMember (shape : LineShape) (add : OpenClass → σ → Noted (OpenClass × σ))
    (loading : Loading σ) : Except Fault (Noted (Loading σ)) :=
  match loading.scope with
  | .outside => .error (LineFault.toFault { shape, cause := .outsideClass })
  | .dropped => .ok (pure loading)
  | .inside current => .ok do
    let (current, state) ← add current loading.state
    return { loading with scope := .inside current, state }

/-- Takes in what a line declares. -/
def declare (label : String) (annotator : Annotator σ) (loading : Loading σ) :
    Declaration → Except Fault (Noted (Loading σ))
  | .header human obfuscated =>
    if isPackageMarker human then .ok (pure loading.dropMembers)
    else .ok (loading.openClass label annotator human obfuscated)
  | .field type human obfuscated =>
    loading.addMember .fieldEntry (addField annotator (.ofField obfuscated human type))
  | .method result human params obfuscated =>
    loading.addMember .methodEntry (addMethod annotator (.ofMethod obfuscated human params result))

/-- What the lines of a mapping come to. The label names the build in the events. -/
def reader (label : String) (annotator : Annotator σ) : LineReader (Loading σ) :=
  fun loading line =>
    match Declaration.read line with
    | .error fault => .error fault.toFault
    | .ok declaration => loading.declare label annotator declaration

end Loading

/-! ## Loading in place -/

namespace Attempt

variable {σ : Type}

/-- Adds a member to the open class. A member outside of any class is refused. -/
def addMember (shape : LineShape) (add : OpenClass → σ → Noted (OpenClass × σ)) :
    Attempt (Loading σ) Unit := do
  let loading ← get
  match loading.scope with
  | .outside => throw (LineFault.toFault { shape, cause := .outsideClass })
  | .dropped => return
  | .inside current =>
    let (current, state) ← add current loading.state
    set { loading with scope := .inside current, state }

/-- Reads a line of a mapping. The label names the build in the events. -/
def loadLine (label : String) (annotator : Annotator σ) (line : String) :
    Attempt (Loading σ) Unit := do
  match ← liftM ((Declaration.read line).mapError LineFault.toFault) with
  | .header human obfuscated =>
    if Loading.isPackageMarker human then
      modify Loading.dropMembers
      return
    set (← (← get).openClass label annotator human obfuscated)
  | .field type human obfuscated =>
    addMember .fieldEntry (Loading.addField annotator (.ofField obfuscated human type))
  | .method result human params obfuscated =>
    addMember .methodEntry (Loading.addMethod annotator (.ofMethod obfuscated human params result))

end Attempt

/-- Loads a mapping without giving names. -/
def loadMapping (label : String) (report : Report) (text : String) :
    Noted (Array ClassDecl × Report) := do
  let pass ← Attempt.readText (Attempt.loadLine label Annotator.none) { state := () } report text
  return (pass.state.classes, pass.report)

end NameCarry
