import NameCarry.Attempt
import NameCarry.LineFault
import NameCarry.Registry.Types

/-!
# Links

Links attach community names to the classes and members of a build. A class link `x net/example/C`
gives the class with the obfuscated name `x` a community name. A member link names a class by its
community name, a member of it by its obfuscated name, and the community name of the member:
`net/example/C a count` for a field, `net/example/C a (I)V add` for a method. The types in a method
descriptor are community names where there is one.

Links are carried out in place (`Attempt.linkClassLine`, `Attempt.linkMemberLine`). In the end a
member link comes to this: it is resolved to the member that it means (`Registry.resolve`), which is
then named (`Registry.nameMember`), and a link that cannot be resolved changes nothing.
-/

namespace NameCarry

/-! ## Class links -/

/-- A community name for a class. -/
structure ClassLink where
  /-- The dotted obfuscated name of the class. -/
  obfuscated : String
  /-- The community name, as it was given. -/
  community : String
  deriving DecidableEq, Repr

/-- Reads a class link. Words behind the second one are passed over. -/
def ClassLink.read (line : String) : Except LineFault ClassLink :=
  match Text.tokens line with
  | obfuscated :: community :: _ => .ok { obfuscated := Text.dotted obfuscated, community }
  | words => .error { shape := .classLink, cause := .tooFewWords words.length }

/-! ## Member links -/

/-- A community name for a member. -/
inductive MemberLink where
  /-- A link of a field. -/
  | field (owner obfuscated community : String)
  /-- A link of a method. The descriptor tells it from others of its name. -/
  | method (owner obfuscated descriptor community : String)
  deriving DecidableEq, Repr

namespace MemberLink

/-- Reads a member link: three words for a field, four for a method. The class is taken by its
dotted name. -/
def read (line : String) : Except LineFault MemberLink :=
  match Text.tokens line with
  | [owner, obfuscated, community] => .ok (field (Text.dotted owner) obfuscated community)
  | [owner, obfuscated, descriptor, community] =>
    .ok (method (Text.dotted owner) obfuscated descriptor community)
  | words => .error { shape := .memberLink, cause := .wrongWordCount words.length }

/-- The community name that the link gives. -/
def community : MemberLink → String
  | field _ _ community => community
  | method _ _ _ community => community

end MemberLink

/-- Where a member stands in a registry. -/
inductive MemberSite where
  /-- A field, by the number of its class and its own number there. -/
  | field (owner number : Nat)
  /-- A method, by the number of its class and its own number there. -/
  | method (owner number : Nat)
  deriving DecidableEq, Repr

namespace Registry

/-- The number of the class that a member link names, and the class. -/
def ownerOf (registry : Registry) (owner : String) : Except Fault (Nat × ClassDecl) :=
  match registry.communityNumber? owner, registry.communityClass? owner with
  | some number, some cls => .ok (number, cls)
  | _, _ => .error (.unknownClass "bukkit" owner)

/-- The number of the field of a class with the given obfuscated name. -/
def resolveField (cls : ClassDecl) (owner obfuscated community : String) : Except Fault Nat :=
  match cls.fields.findIdx? (·.obfuscated == obfuscated) with
  | none => .error (.unknownMember owner "field" obfuscated community)
  | some number => .ok number

/-- The number of the method of a class with the given obfuscated name and signature. Of the methods
with the name and the parameters the first one is meant, and its result type must be the given one.
-/
def resolveMethod (cls : ClassDecl) (owner obfuscated community : String) (signature : Signature) :
    Except Fault Nat :=
  if !cls.methods.any (·.obfuscated == obfuscated) then
    .error (.unknownMember owner "method" obfuscated community)
  else
    let fits (method : Identifier) :=
      method.obfuscated == obfuscated && method.params == signature.params
    match cls.methods.find? fits with
    | none =>
      .error (.parameterMismatch owner obfuscated community (", ".intercalate signature.params))
    | some method =>
      if method.type == some signature.result then .ok (cls.methods.findIdx fits)
      else .error (.resultMismatch owner obfuscated community method.displayType signature.result)

/-- The member that a link means. -/
def resolve (registry : Registry) : MemberLink → Except Fault MemberSite
  | .field owner obfuscated community => do
    let (number, cls) ← registry.ownerOf owner
    return .field number (← resolveField cls owner obfuscated community)
  | .method owner obfuscated descriptor community => do
    let signature ← (Signature.read descriptor).mapError .invalidDescriptor
    let (number, cls) ← registry.ownerOf owner
    return .method number
      (← resolveMethod cls owner obfuscated community (registry.toHumanSignature signature))

/-- Gives a member a community name. -/
def nameMember (registry : Registry) (site : MemberSite) (community : String) : Registry :=
  let ⟨classes, byObfuscated, byHuman, byCommunity⟩ := registry
  let classes := match site with
    | .field owner number =>
      classes.modify owner fun cls =>
        { cls with fields := cls.fields.modify number (·.link community) }
    | .method owner number =>
      classes.modify owner fun cls =>
        { cls with methods := cls.methods.modify number (·.link community) }
  { classes, byObfuscated, byHuman, byCommunity }

/-- Carries out a member link. -/
def linkMember (registry : Registry) (link : MemberLink) : Except Fault Registry := do
  return registry.nameMember (← registry.resolve link) link.community

/-- Reads and carries out one class link. -/
def linkClassLine (registry : Registry) (line : String) : Except Fault Registry := do
  let link ← (ClassLink.read line).mapError LineFault.toFault
  registry.linkClass link.obfuscated link.community

/-- Reads and carries out one member link. -/
def linkMemberLine (registry : Registry) (line : String) : Except Fault Registry := do
  let link ← (MemberLink.read line).mapError LineFault.toFault
  registry.linkMember link

end Registry

/-! ## Links in place -/

namespace Attempt

/-- Gives the class with the given obfuscated name a community name. -/
def linkClass (obfuscated community : String) : Attempt Registry Unit := do
  let some number := (← get).byObfuscated[obfuscated]?
    | throw (.unknownClass "obfuscated" obfuscated)
  modify (·.nameClass number community)

/-- Reads and carries out one class link. -/
def linkClassLine (line : String) : Attempt Registry Unit :=
  match Text.tokens line with
  | obfuscated :: community :: _ => linkClass (Text.dotted obfuscated) community
  | words => throw (LineFault.toFault { shape := .classLink, cause := .tooFewWords words.length })

/-- Gives a field a community name. -/
def linkField (owner obfuscated community : String) : Attempt Registry Unit := do
  let owner := Text.dotted owner
  let (number, cls) ← (← get).ownerOf owner
  let some place := cls.fields.findIdx? (·.obfuscated == obfuscated)
    | throw (.unknownMember owner "field" obfuscated community)
  modify (·.nameMember (.field number place) community)

/-- Gives a method a community name. -/
def linkMethod (owner obfuscated descriptor community : String) : Attempt Registry Unit := do
  let owner := Text.dotted owner
  let signature ← liftM ((Signature.read descriptor).mapError Fault.invalidDescriptor)
  let registry ← get
  let params := signature.params.map registry.toHumanType
  let result := registry.toHumanType signature.result
  let (number, cls) ← registry.ownerOf owner
  let candidates := cls.methods.zipIdx.filter (·.1.obfuscated == obfuscated)
  if candidates.isEmpty then
    throw (.unknownMember owner "method" obfuscated community)
  let some (method, place) := candidates.find? (·.1.params == params)
    | throw (.parameterMismatch owner obfuscated community (", ".intercalate params))
  if method.type != some result then
    throw (.resultMismatch owner obfuscated community method.displayType result)
  modify (·.nameMember (.method number place) community)

/-- Reads and carries out one member link. -/
def linkMemberLine (line : String) : Attempt Registry Unit :=
  match Text.tokens line with
  | [owner, obfuscated, community] => linkField owner obfuscated community
  | [owner, obfuscated, descriptor, community] => linkMethod owner obfuscated descriptor community
  | words =>
    throw (LineFault.toFault { shape := .memberLink, cause := .wrongWordCount words.length })

end Attempt

/-! ## Linking from text -/

namespace Registry

/-- Carries out the class links of a text. -/
def linkClasses (registry : Registry) (report : Report) (text : String) : Noted (Pass Registry) :=
  Attempt.readText Attempt.linkClassLine registry report text

/-- Carries out the member links of a text. -/
def linkMembers (registry : Registry) (report : Report) (text : String) : Noted (Pass Registry) :=
  Attempt.readText Attempt.linkMemberLine registry report text

/-- Links a class to its own name, and counts it. -/
def anchor (linked : Registry × Nat) (name : String) : Noted (Registry × Nat) := do
  let (result, registry) ← (Attempt.linkClass name name).on linked.1
  match result with
  | .ok () => return (registry, linked.2 + 1)
  | .error fault =>
    Noted.note (.anchorMissing name fault)
    return (registry, linked.2)

/-- Links each anchor, a class that is called the same in every build, to its own name. Gives the
number of anchors that are classes of the registry. -/
def linkAnchors (registry : Registry) (anchors : List String) : Noted (Registry × Nat) :=
  Noted.foldl anchor (registry, 0) anchors

end Registry

end NameCarry
