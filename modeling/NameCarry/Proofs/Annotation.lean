import Mathlib.Algebra.GroupWithZero.Nat
import NameCarry.Proofs.Carrying
import NameCarry.Proofs.Declared
import NameCarry.Proofs.Lookups

/-!
# Carrying annotates

Carrying names onto a new build yields the classes that the mapping declares, in the same order and
with the same members, and each identifier with the community name that the old build has for it
(`value_loadCarried`). What the names are is said by `ClassDecl.annotated`, without tables and
without a state. The report is that of the plain reading, and the counts are those of the names.

The counts follow from an invariant of the reading: at every line the tally is that of the classes
that were read so far (`Loading.Tallied`).
-/

namespace NameCarry

/-! ## The names that an old build has for a new one -/

/-- The first of the classes with the human name of an identifier. -/
def namesakeIn? (classes : Array ClassDecl) (id : Identifier) : Option ClassDecl :=
  id.human.bind fun human => classes.find? (·.identity.human == some human)

theorem mem_of_namesakeIn? {classes : Array ClassDecl} {id : Identifier} {cls : ClassDecl}
    (h : namesakeIn? classes id = some cls) : cls ∈ classes ∧ cls.identity.human = id.human := by
  obtain ⟨human, hhuman, hfind⟩ := Option.bind_eq_some_iff.1 h
  have hmatch := Array.find?_some hfind
  exact ⟨Array.mem_of_find?_eq_some hfind, (eq_of_beq hmatch).trans hhuman.symm⟩

namespace ClassDecl

/-- Whether an old field gives its name to a new one: human name and type agree, and it is linked.
-/
def givesTo (field former : Identifier) : Bool :=
  former.human == field.human && former.type == field.type && former.isLinked

/-- The first field of an old class that gives its name to a new field. -/
def fieldSource? (former : ClassDecl) (field : Identifier) : Option Identifier :=
  former.fields.find? (givesTo field)

/-- The first method of an old class that agrees with a new method on human name, result type and
parameters. -/
def methodSource? (former : ClassDecl) (method : Identifier) : Option Identifier :=
  former.methods.find? fun old =>
    old.human == method.human && old.type == method.type && old.params == method.params

/-- The number of fields of an old class that have the human name of a new field and another type,
up to the field that gives the name, or in all if none gives it. -/
def retypedBefore (former : ClassDecl) (field : Identifier) : Nat :=
  (former.fields.takeWhile (!givesTo field ·)).countP fun old =>
    old.human == field.human && old.type != field.type

/-- A class with its members, each under the community name that the old classes have for it, and
under none if they have none. -/
def annotated (old : Array ClassDecl) (cls : ClassDecl) : ClassDecl where
  identity :=
    { cls.identity with
      community := (namesakeIn? old cls.identity).bind (·.identity.community) }
  fields := cls.fields.map fun field =>
    { field with
      community := ((namesakeIn? old cls.identity).bind (·.fieldSource? field)).bind
        (·.community) }
  methods := cls.methods.map fun method =>
    { method with
      community := ((namesakeIn? old cls.identity).bind (·.methodSource? method)).bind
        (·.community) }

/-- The number of old fields that the fields of a class do not take their names from because of
their type. -/
def retypedIn (old : Array ClassDecl) (cls : ClassDecl) : Nat :=
  (cls.fields.map fun field =>
    ((namesakeIn? old cls.identity).map (·.retypedBefore field)).getD 0).sum

/-- The number of members with a community name. -/
def linkedMembers (cls : ClassDecl) : Nat :=
  cls.fields.countP (·.isLinked) + cls.methods.countP (·.isLinked)

end ClassDecl

/-- The number of classes with a community name. -/
def linkedClassCount (classes : Array ClassDecl) : Nat :=
  classes.countP (·.identity.isLinked)

/-- The number of members with a community name. -/
def linkedMemberCount (classes : Array ClassDecl) : Nat :=
  (classes.toList.map (·.linkedMembers)).sum

/-! ## Tables and scans give the same names -/

namespace Registry

variable {old : Registry}

theorem Indexed.namesake? (h : old.Indexed) (id : Identifier) :
    old.namesake? id = namesakeIn? old.classes id := by
  unfold Registry.namesake? namesakeIn?
  congr 1
  funext human
  exact h.humanClass? human

theorem Indexed.carriedClassName? (h : old.Indexed) (id : Identifier) :
    old.carriedClassName? id = (namesakeIn? old.classes id).bind (·.identity.community) := by
  rw [Registry.carriedClassName?, h.namesake?]

/-- Among the fields of one human name, the rest of the test decides. -/
theorem accepts_and_namesake (field former : Identifier) :
    (former.human == field.human && accepts field former) = ClassDecl.givesTo field former := by
  simp only [accepts, ClassDecl.givesTo, Bool.and_assoc]

theorem Indexed.carriedFieldName? (h : old.Indexed) (owner field : Identifier) :
    old.carriedFieldName? owner field =
      ((namesakeIn? old.classes owner).bind (·.fieldSource? field)).bind (·.community) := by
  unfold Registry.carriedFieldName? fieldNamesakes
  rw [h.namesake?]
  cases namesakeIn? old.classes owner with
  | none => rfl
  | some former =>
    simp only [Option.bind_some, ClassDecl.fieldSource?, List.find?_filter, Bool.decide_and,
      Bool.decide_eq_true, accepts_and_namesake]

theorem Indexed.carriedMethodName? (h : old.Indexed) (owner method : Identifier) :
    old.carriedMethodName? owner method =
      ((namesakeIn? old.classes owner).bind (·.methodSource? method)).bind (·.community) := by
  rw [Registry.carriedMethodName?, h.namesake?]
  rfl

/-- Filtering first and stopping at an element is stopping at the element and filtering then. -/
theorem filter_takeWhile_filter {α : Type} (p q r : α → Bool) (xs : List α) :
    ((xs.filter p).takeWhile (!q ·)).filter r =
      (xs.takeWhile fun x => !(p x && q x)).filter fun x => p x && r x := by
  induction xs with
  | nil => rfl
  | cons x xs ih =>
    cases hp : p x with
    | false => simp [hp, ih]
    | true =>
      cases hq : q x with
      | true => simp [hp, hq]
      | false => cases hr : r x <;> simp [hp, hq, hr, ih]

theorem Indexed.length_retypedNamesakes (h : old.Indexed) (owner field : Identifier) :
    (old.retypedNamesakes owner field).length =
      ((namesakeIn? old.classes owner).map (·.retypedBefore field)).getD 0 := by
  unfold retypedNamesakes fieldNamesakes
  rw [h.namesake?]
  cases namesakeIn? old.classes owner with
  | none => rfl
  | some former =>
    simp only [Option.map_some, Option.getD_some, ClassDecl.retypedBefore, List.countP_eq_length_filter,
      filter_takeWhile_filter, accepts_and_namesake]

/-- A class that has no community names takes those of the old build. -/
theorem Indexed.carryDecl (h : old.Indexed) {cls : ClassDecl} (hcls : cls.Declared) :
    old.carryDecl cls = cls.annotated old.classes := by
  have hfield : ∀ field ∈ cls.fields, field.linkTo (old.carriedFieldName? cls.identity field) =
      { field with community := ((namesakeIn? old.classes cls.identity).bind
        (·.fieldSource? field)).bind (·.community) } := by
    intro field hmem
    rw [Identifier.linkTo, hcls.field field hmem, Option.or_none, h.carriedFieldName?]
  have hmethod : ∀ method ∈ cls.methods,
      method.linkTo (old.carriedMethodName? cls.identity method) =
      { method with community := ((namesakeIn? old.classes cls.identity).bind
        (·.methodSource? method)).bind (·.community) } := by
    intro method hmem
    rw [Identifier.linkTo, hcls.method method hmem, Option.or_none, h.carriedMethodName?]
  unfold Registry.carryDecl ClassDecl.annotated
  rw [List.map_congr_left hfield, List.map_congr_left hmethod, Identifier.linkTo, hcls.community,
    Option.or_none, h.carriedClassName?]

end Registry

/-! ## The tally is that of the classes -/

/-- What carrying counts for classes that were read. -/
def tallyOf (old : Registry) (classes : Array ClassDecl) : Tally where
  classes := linkedClassCount classes
  members := linkedMemberCount classes
  retyped := (classes.toList.map fun cls =>
    (cls.fields.map fun field => (old.retypedNamesakes cls.identity field).length).sum).sum

theorem tallyOf_push (old : Registry) (classes : Array ClassDecl) (cls : ClassDecl) :
    tallyOf old (classes.push cls) =
      { classes := linkedClassCount classes + if cls.identity.isLinked then 1 else 0
        members := linkedMemberCount classes + cls.linkedMembers
        retyped := (tallyOf old classes).retyped +
          (cls.fields.map fun field => (old.retypedNamesakes cls.identity field).length).sum } := by
  simp [tallyOf, linkedClassCount, linkedMemberCount, Array.countP_push]

/-! ### What one identifier adds -/

theorem isLinked_linkTo {id : Identifier} (hid : id.community = none) (name : Option String) :
    (id.linkTo name).isLinked = name.isSome := by
  rw [Identifier.isLinked, Identifier.linkTo, hid, Option.or_none]

theorem value_carryClass_snd (old : Registry) (cls : Identifier) (tally : Tally) :
    (old.carryClass cls tally).value.2 =
      { tally with
        classes := tally.classes + if (old.carriedClassName? cls).isSome then 1 else 0 } := by
  unfold Registry.carryClass
  cases old.carriedClassName? cls <;> rfl

theorem value_carryField_snd (old : Registry) (owner field : Identifier) (tally : Tally) :
    (old.carryField owner field tally).value.2 =
      { tally with
        members := tally.members + if (old.carriedFieldName? owner field).isSome then 1 else 0
        retyped := tally.retyped + (old.retypedNamesakes owner field).length } := by
  rw [Registry.carryField_eq, Registry.nameFrom, Registry.carriedFieldName?]
  cases ((old.fieldNamesakes owner field).find? (Registry.accepts field)).bind (·.community) <;> rfl

theorem value_carryMethod_snd (old : Registry) (owner method : Identifier) (tally : Tally) :
    (old.carryMethod owner method tally).value.2 =
      { tally with
        members :=
          tally.members + if (old.carriedMethodName? owner method).isSome then 1 else 0 } := by
  unfold Registry.carryMethod
  cases old.carriedMethodName? owner method <;> rfl

namespace Loading

variable {old : Registry} {loading : Loading Tally}

/-- The tally is that of the classes that were read so far. -/
def Tallied (old : Registry) (loading : Loading Tally) : Prop :=
  loading.state = tallyOf old loading.classes

theorem Tallied.dropMembers (h : loading.Tallied old) : loading.dropMembers.Tallied old :=
  h

theorem Tallied.openClass (h : loading.Tallied old) (label human obfuscated : String) :
    (loading.openClass label old.carrier human obfuscated).value.Tallied old := by
  have hlinked : ((Identifier.ofClass obfuscated human).linkTo
      (old.carriedClassName? (.ofClass obfuscated human))).isLinked =
        (old.carriedClassName? (.ofClass obfuscated human)).isSome := isLinked_linkTo rfl _
  unfold Tallied at h ⊢
  simp only [Loading.openClass, Noted.value_bind, Noted.value_pure, Registry.carrier,
    Registry.value_carryClass_fst, value_carryClass_snd, h]
  simp only [Loading.classes, OpenClass.close, tallyOf_push, hlinked]
  simp [tallyOf, ClassDecl.linkedMembers]

/-- Adding a member keeps the tally right, if it does so within the open class. -/
theorem Tallied.addMember (h : loading.Tallied old) {shape : LineShape}
    {add : OpenClass → Tally → Noted (OpenClass × Tally)}
    (hadd : ∀ (closed : Array ClassDecl) current tally,
      tally = tallyOf old (closed.push current.close) →
      (add current tally).value.2 = tallyOf old (closed.push (add current tally).value.1.close))
    {moved : Noted (Loading Tally)} (hmoved : loading.addMember shape add = .ok moved) :
    moved.value.Tallied old := by
  obtain ⟨closed, scope, state⟩ := loading
  cases scope with
  | outside => cases hmoved
  | dropped =>
    cases hmoved
    exact h
  | inside current =>
    cases hmoved
    exact hadd closed current state h

theorem tallyOf_addField {field : Identifier} (hfield : field.community = none)
    (closed : Array ClassDecl) (current : OpenClass) (tally : Tally)
    (h : tally = tallyOf old (closed.push current.close)) :
    (addField old.carrier field current tally).value.2 =
      tallyOf old (closed.push (addField old.carrier field current tally).value.1.close) := by
  have hlinked := isLinked_linkTo hfield (old.carriedFieldName? current.identity field)
  -- The name that the field gets plays no part in what it is compared with.
  have hretyped : ∀ name, old.retypedNamesakes current.identity (field.linkTo name) =
      old.retypedNamesakes current.identity field := fun _ => rfl
  simp only [addField, Noted.value_bind, Noted.value_pure, Registry.carrier,
    Registry.value_carryField_fst, value_carryField_snd, h, OpenClass.close, tallyOf_push]
  simp [ClassDecl.linkedMembers, hlinked, hretyped]
  omega

theorem tallyOf_addMethod {method : Identifier} (hmethod : method.community = none)
    (closed : Array ClassDecl) (current : OpenClass) (tally : Tally)
    (h : tally = tallyOf old (closed.push current.close)) :
    (addMethod old.carrier method current tally).value.2 =
      tallyOf old (closed.push (addMethod old.carrier method current tally).value.1.close) := by
  have hlinked := isLinked_linkTo hmethod (old.carriedMethodName? current.identity method)
  simp only [addMethod, Noted.value_bind, Noted.value_pure, Registry.carrier,
    Registry.value_carryMethod_fst, value_carryMethod_snd, h, OpenClass.close, tallyOf_push]
  simp [ClassDecl.linkedMembers, hlinked]
  omega

/-- A line that is used keeps the tally right. -/
theorem Tallied.reader (h : loading.Tallied old) {label line : String}
    {moved : Noted (Loading Tally)}
    (hmoved : Loading.reader label old.carrier loading line = .ok moved) :
    moved.value.Tallied old := by
  unfold Loading.reader at hmoved
  cases hread : Declaration.read line with
  | error fault => simp [hread] at hmoved
  | ok declaration =>
    simp only [hread] at hmoved
    cases declaration with
    | header human obfuscated =>
      simp only [declare] at hmoved
      split at hmoved <;> cases hmoved
      · exact h.dropMembers
      · exact h.openClass label human obfuscated
    | field type human obfuscated => exact h.addMember (tallyOf_addField rfl) hmoved
    | method result human params obfuscated => exact h.addMember (tallyOf_addMethod rfl) hmoved

end Loading

/-- After a whole mapping the tally is that of its classes. -/
theorem tally_loadCarried (old : Registry) (label : String) (report : Report) (text : String) :
    (loadCarried old label report text).value.2.1 =
      tallyOf old (loadCarried old label report text).value.1 := by
  have hstart : Loading.Tallied old { state := {} } := rfl
  have hstep : ∀ loading line moved, Loading.Tallied old loading →
      Loading.reader label old.carrier loading line = .ok moved →
      Loading.Tallied old moved.value := fun _ _ _ h hread => h.reader hread
  have hrun := LineReader.run_induction hstart hstep (Text.contentLines text)
  simp only [loadCarried_eq_readText, Noted.value_bind, Noted.value_pure, LineReader.value_readText]
  exact hrun

/-- Carrying reports the lines that the plain reading reports. -/
theorem report_loadCarried (old : Registry) (label label' : String) (report : Report)
    (text : String) :
    (loadCarried old label report text).value.2.2 = (loadMapping label' report text).value.2 := by
  obtain ⟨-, -, hrefused⟩ :=
    LineReader.Matches.run (fun _ _ line h => Mirrors.reader h label' label line)
      (Text.contentLines text) (mirrors_start old)
  simp only [loadCarried_eq_readText, loadMapping_eq_readText, Noted.value_bind,
    Noted.value_pure, LineReader.value_readText, hrefused]

/-! ## The classes, the counts and the report of a carried loading -/

/-- The tally counts the classes and members that got a name, and the old fields that were passed
over because of their type. -/
theorem tally_loadCarried_of_indexed {old : Registry} (h : old.Indexed) (label label' : String)
    (report : Report) (text : String) :
    (loadCarried old label report text).value.2.1 =
      { classes := linkedClassCount (loadCarried old label report text).value.1
        members := linkedMemberCount (loadCarried old label report text).value.1
        retyped := ((loadMapping label' report text).value.1.toList.map
          (·.retypedIn old.classes)).sum } := by
  -- A class is compared with the same old fields before and after it is named.
  have hcls : ∀ cls : ClassDecl, ((old.carryDecl cls).fields.map fun field =>
      (old.retypedNamesakes (old.carryDecl cls).identity field).length).sum =
        cls.retypedIn old.classes := by
    intro cls
    simp only [Registry.carryDecl, List.map_map, ClassDecl.retypedIn, ← h.length_retypedNamesakes]
    rfl
  have hretyped : (((loadCarried old label report text).value.1.toList.map fun cls =>
      (cls.fields.map fun field => (old.retypedNamesakes cls.identity field).length).sum).sum) =
        ((loadMapping label' report text).value.1.toList.map (·.retypedIn old.classes)).sum := by
    rw [classes_loadCarried old label label' report report text, Array.toList_map, List.map_map]
    exact congrArg List.sum (List.map_congr_left fun cls _ => hcls cls)
  rw [tally_loadCarried, tallyOf, hretyped]

/-- Carrying the names of an old build onto a new one annotates the classes that the mapping of the
new build declares, counts what it annotates, and reports what the plain reading reports. -/
theorem value_loadCarried {old : Registry} (h : old.Indexed) (label label' : String)
    (report : Report) (text : String) :
    (loadCarried old label report text).value.1 =
        (loadMapping label' report text).value.1.map (·.annotated old.classes) ∧
      (loadCarried old label report text).value.2.1 =
        { classes := linkedClassCount (loadCarried old label report text).value.1
          members := linkedMemberCount (loadCarried old label report text).value.1
          retyped := ((loadMapping label' report text).value.1.toList.map
            (·.retypedIn old.classes)).sum } ∧
      (loadCarried old label report text).value.2.2 = (loadMapping label' report text).value.2 := by
  refine ⟨?_, tally_loadCarried_of_indexed h label label' report text,
    report_loadCarried old label label' report text⟩
  rw [classes_loadCarried old label label' report report text]
  apply Array.map_congr_left
  intro cls hcls
  exact h.carryDecl (declared_of_mem_loadMapping hcls)

/-- An old build with one class. It has two fields of one name, and the second one is linked. -/
def aviary : Registry := .ofClasses #[
  { identity := { Identifier.ofClass "a" "Bird" with community := some "Fowl" }
    fields := [.ofField "b" "age" "int",
      { Identifier.ofField "c" "age" "long" with community := some "years" }] }]

/-- A new build of the class. The first field is passed over once before it gets its name, and the
second one gets none. -/
def aviaryMapping : String := "Bird -> x:\n long age -> y\n int age -> z"

theorem value_loadCarried_aviary :
    aviary.Indexed ∧
      (loadCarried aviary "new" { source := "new" } aviaryMapping).value.1 =
        (loadMapping "new" { source := "new" } aviaryMapping).value.1.map
          (·.annotated aviary.classes) ∧
      (loadCarried aviary "new" { source := "new" } aviaryMapping).value.2.1 =
        { classes := 1, members := 1, retyped := 2 } ∧
      (loadCarried aviary "new" { source := "new" } aviaryMapping).value.2.2 =
        (loadMapping "new" { source := "new" } aviaryMapping).value.2 := by
  have hindexed : aviary.Indexed := Registry.indexed_ofClasses _
  obtain ⟨hclasses, htally, hreport⟩ :=
    value_loadCarried hindexed "new" "new" { source := "new" } aviaryMapping
  refine ⟨hindexed, hclasses, ?_, hreport⟩
  rw [htally]
  decide +kernel

end NameCarry
