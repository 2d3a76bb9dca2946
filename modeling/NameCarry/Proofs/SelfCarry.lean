import Mathlib.Tactic.MkIffOfInductiveProp
import NameCarry.Proofs.Annotation
import NameCarry.Proofs.MemberLinks

/-!
# Carrying a build onto itself

If the names and types of a mapping tell its classes and members apart (`Distinguished`), and its
classes were linked in any way, then reading the mapping once more and carrying the names onto it
yields the linked classes again, with all their names (`value_loadCarried_self`). No name is lost,
none is made up, and none goes to another identifier.

Links change community names and nothing else (`Registry.bare_classes_run`). So the classes that are
read are the linked ones without their community names, and each of those is its own namesake.
-/

namespace NameCarry

/-! ## Links change community names only -/

section MapModify

variable {α β : Type} {g : α → β} {f : α → α}

theorem map_modify_of_eq (h : ∀ x, g (f x) = g x) (xs : List α) (number : Nat) :
    (xs.modify number f).map g = xs.map g := by
  apply List.ext_getElem (by simp)
  intro place h₁ h₂
  simp only [List.getElem_map, List.getElem_modify]
  split
  · exact h _
  · rfl

theorem map_modify_array_of_eq (h : ∀ x, g (f x) = g x) (xs : Array α) (number : Nat) :
    (xs.modify number f).map g = xs.map g := by
  apply Array.toList_inj.1
  simpa using map_modify_of_eq h xs.toList number

end MapModify

theorem bare_nameIn (community : String) (site : MemberSite) (cls : ClassDecl) :
    (site.nameIn community cls).bare = cls.bare := by
  have hlist : ∀ (ids : List Identifier) (number : Nat),
      (ids.modify number (·.link community)).map Identifier.bare = ids.map Identifier.bare :=
    map_modify_of_eq fun _ => rfl
  cases site with
  | field owner number =>
    simp only [MemberSite.nameIn, ClassDecl.bare, ClassDecl.bareMembers, hlist]
  | method owner number =>
    simp only [MemberSite.nameIn, ClassDecl.bare, ClassDecl.bareMembers, hlist]

/-- Whatever links are carried out, the classes are the same but for community names. -/
theorem Registry.bare_classes_run (registry : Registry) (ops : List LinkOp) :
    (LinkOp.run registry ops).classes.map ClassDecl.bare = registry.classes.map ClassDecl.bare := by
  apply LinkOp.run_induction
    (motive := fun linked => linked.classes.map ClassDecl.bare = registry.classes.map ClassDecl.bare)
  · intro before linked hbefore obfuscated community hlink
    obtain ⟨number, -, rfl⟩ := linkClass_eq_ok_iff.1 hlink
    have hlink : ∀ cls : ClassDecl, (cls.link community).bare = cls.bare := fun _ => rfl
    rw [← hbefore]
    exact map_modify_array_of_eq hlink before.classes number
  · intro before linked hbefore link hlink
    obtain ⟨site, -, rfl⟩ := linkMember_eq_ok_iff.1 hlink
    rw [← hbefore, nameMember_eq_modify]
    exact map_modify_array_of_eq (bare_nameIn link.community site) before.classes site.owner
  · rfl

/-- A class that a mapping declares has no community names to take away. -/
theorem ClassDecl.Declared.bare_eq_self {cls : ClassDecl} (h : cls.Declared) : cls.bare = cls := by
  have hid : ∀ id : Identifier, id.community = none → id.bare = id := by
    intro id hid
    rw [Identifier.bare, ← hid]
  have hlist : ∀ ids : List Identifier, (∀ id ∈ ids, id.community = none) →
      ids.map Identifier.bare = ids := by
    intro ids hids
    exact (List.map_congr_left fun id hmem => hid id (hids id hmem)).trans (List.map_id ids)
  rw [ClassDecl.bare, ClassDecl.bareMembers, hid _ h.community, hlist _ h.field,
    hlist _ h.method]

/-! ## Classes and members that are told apart -/

/-- Human names tell the classes apart; within each class, human names and types tell the fields
apart, and human names, result types and parameters the methods. -/
@[mk_iff]
structure Distinguished (classes : Array ClassDecl) : Prop where
  /-- Two classes differ in their human names. -/
  human : (classes.toList.map (·.identity.human)).Nodup
  /-- Two fields of a class differ in human name or type. -/
  fields : ∀ cls ∈ classes, (cls.fields.map fun field => (field.human, field.type)).Nodup
  /-- Two methods of a class differ in human name, result type or parameters. -/
  methods : ∀ cls ∈ classes,
    (cls.methods.map fun method => (method.human, method.type, method.params)).Nodup

instance (classes : Array ClassDecl) : Decidable (Distinguished classes) :=
  decidable_of_iff _ (distinguished_iff classes).symm

/-- Community names have no part in it. -/
theorem distinguished_map_bare {classes : Array ClassDecl} :
    Distinguished (classes.map ClassDecl.bare) ↔ Distinguished classes := by
  have hfield : (fun field : Identifier => (field.human, field.type)) ∘ Identifier.bare =
      fun field => (field.human, field.type) := rfl
  have hmethod : (fun method : Identifier => (method.human, method.type, method.params)) ∘
      Identifier.bare = fun method => (method.human, method.type, method.params) := rfl
  have hcls : (fun cls : ClassDecl => cls.identity.human) ∘ ClassDecl.bare =
      fun cls => cls.identity.human := rfl
  simp only [distinguished_iff, Array.toList_map, List.map_map, hcls, Array.forall_mem_map,
    ClassDecl.bare, ClassDecl.bareMembers, hfield, hmethod]

/-! ## Each class is its own namesake -/

section OwnNames

variable {classes : Array ClassDecl} {cls : ClassDecl}

/-- A class is found by its own human name. -/
theorem Distinguished.namesakeIn? (h : Distinguished classes) (hcls : cls ∈ classes)
    (hhuman : cls.identity.human.isSome) : namesakeIn? classes cls.identity = some cls := by
  obtain ⟨human, hhuman⟩ := Option.isSome_iff_exists.1 hhuman
  rw [NameCarry.namesakeIn?, hhuman, Option.bind_some, find?_key_eq_some_iff h.human]
  exact ⟨hcls, hhuman⟩

/-- A field takes its own name, if it has one. No other field agrees with it. -/
theorem fieldSource?_bare (hnodup : (cls.fields.map fun field => (field.human, field.type)).Nodup)
    {field : Identifier} (hfield : field ∈ cls.fields) :
    (cls.fieldSource? field.bare).bind (·.community) = field.community := by
  have hself : ∀ other ∈ cls.fields, ClassDecl.givesTo field.bare other = true → other = field := by
    intro other hother hgives
    simp only [ClassDecl.givesTo, Bool.and_eq_true, beq_iff_eq] at hgives
    exact List.inj_on_of_nodup_map hnodup hother hfield (Prod.ext hgives.1.1 hgives.1.2)
  cases hsource : cls.fieldSource? field.bare with
  | some source =>
    rw [hself source (List.mem_of_find?_eq_some hsource) (List.find?_some hsource)]
    rfl
  | none =>
    -- The search passes over the field itself, so the field is not linked.
    have hpassed := List.find?_eq_none.1 hsource field hfield
    have hunlinked : field.isLinked = false := by
      simpa [ClassDecl.givesTo, Identifier.bare] using hpassed
    exact (Option.isNone_iff_eq_none.1 (by simpa [Identifier.isLinked] using hunlinked)).symm

/-- A method takes its own name, if it has one. -/
theorem methodSource?_bare
    (hnodup : (cls.methods.map fun method => (method.human, method.type, method.params)).Nodup)
    {method : Identifier} (hmethod : method ∈ cls.methods) :
    (cls.methodSource? method.bare).bind (·.community) = method.community := by
  have hsource : cls.methodSource? method.bare = some method := by
    unfold ClassDecl.methodSource?
    rw [find?_eq_some_iff_of_unique]
    · exact ⟨hmethod, by simp [Identifier.bare]⟩
    · intro a ha b hb hsame hsame'
      simp only [Bool.and_eq_true, beq_iff_eq] at hsame hsame'
      apply List.inj_on_of_nodup_map hnodup ha hb
      rw [hsame.1.1, hsame.1.2, hsame.2, hsame'.1.1, hsame'.1.2, hsame'.2]
  rw [hsource, Option.bind_some]

/-- Without its names and annotated by the classes that it is one of, a class has its names again.
-/
theorem Distinguished.annotated_bare (h : Distinguished classes) (hcls : cls ∈ classes)
    (hhuman : cls.identity.human.isSome) : cls.bare.annotated classes = cls := by
  have hnamesake : NameCarry.namesakeIn? classes cls.bare.identity = some cls :=
    h.namesakeIn? hcls hhuman
  have hfields : cls.bare.fields.map (fun field =>
      { field with community := (cls.fieldSource? field).bind (·.community) }) = cls.fields := by
    rw [ClassDecl.bare, ClassDecl.bareMembers, List.map_map]
    refine (List.map_congr_left fun field hfield => ?_).trans (List.map_id _)
    simp only [Function.comp_apply, fieldSource?_bare (h.fields cls hcls) hfield]
    rfl
  have hmethods : cls.bare.methods.map (fun method =>
      { method with community := (cls.methodSource? method).bind (·.community) }) =
        cls.methods := by
    rw [ClassDecl.bare, ClassDecl.bareMembers, List.map_map]
    refine (List.map_congr_left fun method hmethod => ?_).trans (List.map_id _)
    simp only [Function.comp_apply, methodSource?_bare (h.methods cls hcls) hmethod]
    rfl
  rw [ClassDecl.annotated, hnamesake]
  simp only [Option.bind_some, hfields, hmethods]
  rfl

end OwnNames

/-! ## Reading the mapping once more -/

/-- Carried onto the mapping that it was read from, a build with any links has its own classes again,
and as many of them and of their members are named as are linked in the build. -/
theorem value_loadCarried_self {label text : String} {report : Report}
    (h : Distinguished (loadMapping label report text).value.1) (ops : List LinkOp)
    (label' : String) (report' : Report) :
    let linked := LinkOp.run (.ofClasses (loadMapping label report text).value.1) ops
    let carried := (loadCarried linked label' report' text).value
    carried.1 = linked.classes ∧
      carried.2.1.classes = linkedClassCount linked.classes ∧
      carried.2.1.members = linkedMemberCount linked.classes := by
  intro linked carried
  have hindexed : linked.Indexed := (Registry.indexed_ofClasses _).run ops
  have hdeclared : ∀ cls ∈ (loadMapping label report text).value.1, cls.Declared :=
    fun cls hcls => declared_of_mem_loadMapping hcls
  have hbare : (loadMapping label report text).value.1 = linked.classes.map ClassDecl.bare := by
    rw [Registry.bare_classes_run, Registry.classes_ofClasses]
    exact ((Array.map_congr_left fun cls hcls => (hdeclared cls hcls).bare_eq_self).trans
      (Array.map_id _)).symm
  have hdistinguished : Distinguished linked.classes := by
    rw [← distinguished_map_bare, ← hbare]
    exact h
  have hclasses : carried.1 = linked.classes := by
    have hcarried := classes_loadCarried linked label' label report' report text
    rw [hcarried, hbare, Array.map_map]
    refine (Array.map_congr_left fun cls hcls => ?_).trans (Array.map_id _)
    have hcls' : cls.bare.Declared := by
      apply hdeclared
      rw [hbare]
      exact Array.mem_map_of_mem hcls
    obtain ⟨human, hhuman⟩ := hcls'.human
    rw [Function.comp_apply, hindexed.carryDecl hcls']
    exact hdistinguished.annotated_bare hcls (Option.isSome_iff_exists.2 ⟨human, hhuman⟩)
  have htally := tally_loadCarried linked label' report' text
  refine ⟨hclasses, ?_, ?_⟩
  · rw [htally, tallyOf, ← hclasses]
  · rw [htally, tallyOf, ← hclasses]

/-- Two fields share their human name, and two methods share both of their names. -/
def loftMapping : String :=
  "Bird -> a:\n int age -> b\n long age -> c\n void fly(int) -> d\n void fly(long) -> d\nNest -> e:"

/-- The second field and the second method are linked, and one of the classes. -/
def loftLinks : List LinkOp :=
  [.classLine "a Fowl", .memberLine "Fowl c years", .memberLine "Fowl d (J)V soar"]

/-- The classes of the mapping, with these links. -/
def loft : Registry :=
  LinkOp.run (.ofClasses (loadMapping "old" { source := "old" } loftMapping).value.1) loftLinks

theorem value_loadCarried_self_loft :
    Distinguished (loadMapping "old" { source := "old" } loftMapping).value.1 ∧
      (loadCarried loft "new" { source := "new" } loftMapping).value.1 = loft.classes ∧
      (loadCarried loft "new" { source := "new" } loftMapping).value.2.1.classes = 1 ∧
      (loadCarried loft "new" { source := "new" } loftMapping).value.2.1.members = 2 := by
  have h : Distinguished (loadMapping "old" { source := "old" } loftMapping).value.1 := by
    decide +kernel
  have hcounts : linkedClassCount loft.classes = 1 ∧ linkedMemberCount loft.classes = 2 := by
    decide +kernel
  obtain ⟨hclasses, hclassCount, hmemberCount⟩ :=
    value_loadCarried_self h loftLinks "new" { source := "new" }
  exact ⟨h, hclasses, hclassCount.trans hcounts.1, hmemberCount.trans hcounts.2⟩

end NameCarry
