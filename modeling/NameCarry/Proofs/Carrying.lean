import NameCarry.Proofs.Attempts
import NameCarry.Proofs.Reading

/-!
# Carrying is reading and naming

Carrying names onto a new build while its mapping is read comes to the same as reading the mapping
first and naming its classes and members afterwards (`classes_loadCarried`). The names depend on
nothing but the old build and the identifier itself: what was read before plays no part, and neither
do the community names that were given already.

The argument is a simulation. While both readings go through the lines, the carried one mirrors the
plain one (`Mirrors`), line by line (`Mirrors.reader`).
-/

namespace NameCarry

theorem Identifier.linkTo_none (id : Identifier) : id.linkTo none = id := by
  cases id
  rfl

namespace Registry

/-! ## The search for the name of a field -/

/-- The fields of the old class that have the human name of a new field. -/
def fieldNamesakes (old : Registry) (owner field : Identifier) : List Identifier :=
  match old.namesake? owner with
  | some cls => cls.fields.filter (·.human == field.human)
  | none => []

/-- Whether a field of the new build takes its name from an old field: that one must have the same
type and be linked. -/
def accepts (field candidate : Identifier) : Bool :=
  candidate.type == field.type && candidate.isLinked

/-- The community name that a field of the new build takes, from the first old field that it can
take it from. -/
def carriedFieldName? (old : Registry) (owner field : Identifier) : Option String :=
  ((old.fieldNamesakes owner field).find? (accepts field)).bind (·.community)

/-- The old fields of another type that stand before the one that gives the name, or all of them if
none gives it. -/
def retypedNamesakes (old : Registry) (owner field : Identifier) : List Identifier :=
  ((old.fieldNamesakes owner field).takeWhile (!accepts field ·)).filter (·.type != field.type)

/-- Notes the old fields that a new field does not take its name from because of their type. -/
def noteRetyped (owner field : Identifier) (candidates : List Identifier) : Noted Unit :=
  { value := ()
    events := (candidates.map fun candidate =>
      Event.fieldRetyped owner.displayName field.displayName candidate.displayType
        field.displayType).toArray }

/-- What the search for the name of a field comes to, by the old fields of its human name. -/
def nameFrom (owner field : Identifier) (namesakes : List Identifier) (tally : Tally) :
    Noted (Option String × Tally) := do
  let passed := (namesakes.takeWhile (!accepts field ·)).filter (·.type != field.type)
  noteRetyped owner field passed
  let tally := { tally with retyped := tally.retyped + passed.length }
  match (namesakes.find? (accepts field)).bind (·.community) with
  | some name =>
    Noted.note (.fieldCarried owner.displayName field.obfuscated (field.human.getD "<none>") name)
    return (some name, { tally with members := tally.members + 1 })
  | none => return (none, tally)

section NameFrom

variable {owner field candidate : Identifier} {namesakes : List Identifier}

theorem noteRetyped_nil (owner field : Identifier) : noteRetyped owner field [] = pure () :=
  rfl

theorem noteRetyped_cons (owner field candidate : Identifier) (candidates : List Identifier) :
    noteRetyped owner field (candidate :: candidates) = (do
      Noted.note (.fieldRetyped owner.displayName field.displayName candidate.displayType
        field.displayType)
      noteRetyped owner field candidates) :=
  Noted.ext_of rfl (by simp [noteRetyped, Noted.note])

theorem nameFrom_nil (owner field : Identifier) (tally : Tally) :
    nameFrom owner field [] tally = pure (none, tally) :=
  rfl

/-- An old field of another type is noted and counted before the search goes on. -/
theorem nameFrom_retyped (h : candidate.type ≠ field.type) (tally : Tally) :
    nameFrom owner field (candidate :: namesakes) tally = (do
      Noted.note (.fieldRetyped owner.displayName field.displayName candidate.displayType
        field.displayType)
      nameFrom owner field namesakes { tally with retyped := tally.retyped + 1 }) := by
  have haccepts : accepts field candidate = false := by simp [accepts, h]
  have hpassed : ((candidate :: namesakes).takeWhile (!accepts field ·)).filter
      (·.type != field.type) =
        candidate :: (namesakes.takeWhile (!accepts field ·)).filter (·.type != field.type) := by
    simp [haccepts, h]
  have hfind : (candidate :: namesakes).find? (accepts field) = namesakes.find? (accepts field) :=
    List.find?_cons_of_neg (by simp [haccepts])
  simp only [nameFrom, hpassed, hfind, noteRetyped_cons, bind_assoc, List.length_cons,
    Nat.add_assoc, Nat.add_comm 1]

/-- An old field of the same type that is not linked is passed over. -/
theorem nameFrom_unlinked (h : candidate.type = field.type) (hlinked : candidate.community = none)
    (tally : Tally) :
    nameFrom owner field (candidate :: namesakes) tally = nameFrom owner field namesakes tally := by
  have haccepts : accepts field candidate = false := by simp [accepts, Identifier.isLinked, hlinked]
  simp [nameFrom, haccepts, h]

/-- A linked old field of the same type gives its name, and the search ends. -/
theorem nameFrom_linked (h : candidate.type = field.type) {name : String}
    (hlinked : candidate.community = some name) (tally : Tally) :
    nameFrom owner field (candidate :: namesakes) tally = (do
      Noted.note (.fieldCarried owner.displayName field.obfuscated (field.human.getD "<none>") name)
      return (some name, { tally with members := tally.members + 1 })) := by
  have haccepts : accepts field candidate = true := by
    simp [accepts, Identifier.isLinked, hlinked, h]
  simp [nameFrom, haccepts, hlinked, noteRetyped_nil]

end NameFrom

theorem visitFields_eq (owner field : Identifier) (candidates : List Identifier) (tally : Tally) :
    visitFields owner field candidates tally =
      nameFrom owner field (candidates.filter (·.human == field.human)) tally := by
  induction candidates generalizing tally with
  | nil => rw [visitFields, List.filter_nil, nameFrom_nil]
  | cons candidate rest ih =>
    rw [visitFields]
    by_cases hhuman : candidate.human = field.human
    · rw [if_neg (by simp [hhuman]), List.filter_cons_of_pos (by simp [hhuman])]
      by_cases htype : candidate.type = field.type
      · rw [if_neg (by simp [htype])]
        cases hlinked : candidate.community with
        | none => rw [nameFrom_unlinked htype hlinked, ← ih]
        | some name => rw [nameFrom_linked htype hlinked]
      · rw [if_pos (by simpa using htype), nameFrom_retyped htype]
        simp only [ih]
    · rw [if_pos (by simpa using hhuman), List.filter_cons_of_neg (by simpa using hhuman), ih]

variable (old : Registry)

/-- The search in closed form: what is noted and counted stands before the one that gives the name.
-/
theorem carryField_eq (owner field : Identifier) (tally : Tally) :
    old.carryField owner field tally =
      nameFrom owner field (old.fieldNamesakes owner field) tally := by
  unfold carryField fieldNamesakes
  cases old.namesake? owner with
  | none => rw [nameFrom_nil]
  | some cls => exact visitFields_eq owner field cls.fields tally

/-! ## Names do not depend on names that were given before -/

theorem carriedFieldName?_linkTo (owner field : Identifier) (name : Option String) :
    old.carriedFieldName? (owner.linkTo name) field = old.carriedFieldName? owner field :=
  rfl

theorem carriedMethodName?_linkTo (owner method : Identifier) (name : Option String) :
    old.carriedMethodName? (owner.linkTo name) method = old.carriedMethodName? owner method :=
  rfl

/-! ## The names that are given while reading -/

theorem value_carryClass_fst (cls : Identifier) (tally : Tally) :
    (old.carryClass cls tally).value.1 = old.carriedClassName? cls := by
  unfold carryClass
  cases old.carriedClassName? cls <;> rfl

theorem value_carryField_fst (owner field : Identifier) (tally : Tally) :
    (old.carryField owner field tally).value.1 = old.carriedFieldName? owner field := by
  rw [carryField_eq, nameFrom, carriedFieldName?]
  cases ((old.fieldNamesakes owner field).find? (accepts field)).bind (·.community) <;> rfl

theorem value_carryMethod_fst (owner method : Identifier) (tally : Tally) :
    (old.carryMethod owner method tally).value.1 = old.carriedMethodName? owner method := by
  unfold carryMethod
  cases old.carriedMethodName? owner method <;> rfl

/-! ## Naming what was read -/

/-- A class with its members, each under the community name that it takes from the old build. -/
def carryDecl (cls : ClassDecl) : ClassDecl where
  identity := cls.identity.linkTo (old.carriedClassName? cls.identity)
  fields := cls.fields.map fun field => field.linkTo (old.carriedFieldName? cls.identity field)
  methods :=
    cls.methods.map fun method => method.linkTo (old.carriedMethodName? cls.identity method)

/-- The same for a class whose members are being read. -/
def carryOpen (current : OpenClass) : OpenClass where
  identity := current.identity.linkTo (old.carriedClassName? current.identity)
  fields :=
    current.fields.map fun field => field.linkTo (old.carriedFieldName? current.identity field)
  methods :=
    current.methods.map fun method => method.linkTo (old.carriedMethodName? current.identity method)

/-- The same for the place where the next member goes. -/
def carryScope : Scope → Scope
  | .outside => .outside
  | .dropped => .dropped
  | .inside current => .inside (old.carryOpen current)

theorem close_carryOpen (current : OpenClass) :
    (old.carryOpen current).close = old.carryDecl current.close := by
  simp [OpenClass.close, carryOpen, carryDecl]

end Registry

/-! ## The simulation -/

/-- A carried loading has read what the plain one has read, and named it. -/
structure Mirrors (old : Registry) (plain : Loading Unit) (carried : Loading Tally) : Prop where
  /-- The complete classes. -/
  closed : carried.closed = plain.closed.map old.carryDecl
  /-- The class whose members are being read. -/
  scope : carried.scope = old.carryScope plain.scope

section Simulation

variable {old : Registry} {plain : Loading Unit} {carried : Loading Tally}

theorem Mirrors.classes (h : Mirrors old plain carried) :
    carried.classes = plain.classes.map old.carryDecl := by
  unfold Loading.classes
  rw [h.scope, h.closed]
  cases plain.scope with
  | outside => rfl
  | dropped => rfl
  | inside current => simp [Registry.carryScope, old.close_carryOpen]

theorem Mirrors.dropMembers (h : Mirrors old plain carried) :
    Mirrors old plain.dropMembers carried.dropMembers where
  closed := h.classes
  scope := rfl

theorem Mirrors.openClass (h : Mirrors old plain carried) (label label' human obfuscated : String) :
    Mirrors old (plain.openClass label Annotator.none human obfuscated).value
      (carried.openClass label' old.carrier human obfuscated).value where
  closed := h.classes
  scope := by
    have hname := old.value_carryClass_fst (Identifier.ofClass obfuscated human) carried.state
    simp only [Loading.openClass, Noted.value_bind, Noted.value_pure, Annotator.none,
      Registry.carrier, Registry.carryScope, Registry.carryOpen, Identifier.linkTo_none, hname,
      List.map_nil]

theorem Mirrors.addMember (h : Mirrors old plain carried) (shape : LineShape)
    {add : OpenClass → Unit → Noted (OpenClass × Unit)}
    {addCarried : OpenClass → Tally → Noted (OpenClass × Tally)}
    (hadd : ∀ current tally, (addCarried (old.carryOpen current) tally).value.1 =
      old.carryOpen (add current ()).value.1) :
    LineReader.Matches (Mirrors old) (plain.addMember shape add)
      (carried.addMember shape addCarried) := by
  unfold Loading.addMember
  rw [h.scope]
  cases plain.scope with
  | outside => exact .error _
  | dropped => exact .ok h
  | inside current =>
    refine .ok ⟨h.closed, ?_⟩
    exact congrArg Scope.inside (hadd current carried.state)

theorem addField_carryOpen (old : Registry) (field : Identifier) (current : OpenClass)
    (tally : Tally) :
    (Loading.addField old.carrier field (old.carryOpen current) tally).value.1 =
      old.carryOpen (Loading.addField Annotator.none field current ()).value.1 := by
  have hname := old.value_carryField_fst (old.carryOpen current).identity field tally
  simp only [Loading.addField, Noted.value_bind, Noted.value_pure, Annotator.none,
    Registry.carrier, hname]
  simp only [Registry.carryOpen, Registry.carriedFieldName?_linkTo, Identifier.linkTo_none,
    List.map_cons]

theorem addMethod_carryOpen (old : Registry) (method : Identifier) (current : OpenClass)
    (tally : Tally) :
    (Loading.addMethod old.carrier method (old.carryOpen current) tally).value.1 =
      old.carryOpen (Loading.addMethod Annotator.none method current ()).value.1 := by
  have hname := old.value_carryMethod_fst (old.carryOpen current).identity method tally
  simp only [Loading.addMethod, Noted.value_bind, Noted.value_pure, Annotator.none,
    Registry.carrier, hname]
  simp only [Registry.carryOpen, Registry.carriedMethodName?_linkTo, Identifier.linkTo_none,
    List.map_cons]

/-- A line keeps the loadings alike, or is refused by both. -/
theorem Mirrors.reader (h : Mirrors old plain carried) (label label' line : String) :
    LineReader.Matches (Mirrors old) (Loading.reader label Annotator.none plain line)
      (Loading.reader label' old.carrier carried line) := by
  unfold Loading.reader
  cases Declaration.read line with
  | error fault => exact .error _
  | ok declaration =>
    cases declaration with
    | header human obfuscated =>
      simp only [Loading.declare]
      split
      · exact .ok h.dropMembers
      · exact .ok (h.openClass label label' human obfuscated)
    | field type human obfuscated => exact h.addMember _ (addField_carryOpen old _)
    | method result human params obfuscated => exact h.addMember _ (addMethod_carryOpen old _)

theorem mirrors_start (old : Registry) :
    Mirrors old { state := () } { state := ({} : Tally) } where
  closed := by simp
  scope := rfl

/-- Carrying names onto a build while it is read comes to the same as naming what was read. -/
theorem classes_loadCarried (old : Registry) (label label' : String) (report report' : Report)
    (text : String) :
    (loadCarried old label report text).value.1 =
      (loadMapping label' report' text).value.1.map old.carryDecl := by
  have hrun := LineReader.Matches.run (fun _ _ line h => Mirrors.reader h label' label line)
    (Text.contentLines text) (mirrors_start old)
  simp only [loadCarried_eq_readText, loadMapping_eq_readText, Noted.value_bind,
    Noted.value_pure, LineReader.value_readText]
  exact hrun.1.classes

end Simulation

end NameCarry
