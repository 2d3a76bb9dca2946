import Mathlib.Tactic.MkIffOfInductiveProp
import NameCarry.Proofs.Descriptors
import NameCarry.Proofs.Lines
import NameCarry.Proofs.Lookups
import NameCarry.Proofs.MemberLinks
import NameCarry.Proofs.Unbroken

/-!
# Builds whose names can be read back

A build is recoverable if its names can be written as words, if they tell its classes and members
apart, and if each type in the signature of a linked method can be told from its written form
(`Recoverable`). The lemmas here are about single names of such a build. A class is found by the
community name that it goes by (`Recoverable.communityNumber?`), and the written form of a type
leads back to the type (`Recoverable.toHumanType_dotted_toWrittenType`).
-/

namespace NameCarry

/-! ## Distinct names -/

section Distinct

variable {α β : Type} {p : α → Bool} {number : Nat} {x : α}

/-- If a test holds of one element at most, a scan finds the one that it holds of. -/
theorem findIdx?_eq_some_of_pairwise {xs : List α}
    (hpairs : xs.Pairwise fun a b => ¬(p a = true ∧ p b = true)) (hx : xs[number]? = some x)
    (hpx : p x = true) : xs.findIdx? p = some number := by
  obtain ⟨hlt, rfl⟩ := List.getElem?_eq_some_iff.1 hx
  rw [List.findIdx?_eq_some_iff_getElem]
  refine ⟨hlt, hpx, ?_⟩
  intro place hplace hfound
  exact List.pairwise_iff_getElem.1 hpairs place number (by omega) hlt hplace ⟨hfound, hpx⟩

theorem findIdx?_eq_some_of_nodup_map {xs : List α} {f : α → β} (hnodup : (xs.map f).Nodup)
    (hx : xs[number]? = some x) (hp : ∀ y, p y = true ↔ f y = f x) :
    xs.findIdx? p = some number := by
  apply findIdx?_eq_some_of_pairwise _ hx ((hp x).2 rfl)
  refine (List.pairwise_map.1 hnodup).imp ?_
  rintro a b hne ⟨ha, hb⟩
  exact hne (((hp a).1 ha).trans ((hp b).1 hb).symm)

/-- The same for an array whose elements have a value or none. -/
theorem findIdx?_eq_some_of_nodup_filterMap [DecidableEq β] {xs : Array α} {key : α → Option β}
    (hnodup : (xs.toList.filterMap key).Nodup) {k : β} (hx : xs[number]? = some x)
    (hkey : key x = some k) : xs.findIdx? (fun y => key y == some k) = some number := by
  rw [← Array.getElem?_toList] at hx
  have hfind : xs.toList.findIdx? (fun y => key y == some k) = some number := by
    have hfits : (key x == some k) = true := beq_iff_eq.2 hkey
    apply findIdx?_eq_some_of_pairwise (p := fun y => key y == some k) _ hx hfits
    refine (List.pairwise_filterMap.1 hnodup).imp ?_
    rintro a b hne ⟨ha, hb⟩
    exact hne k (eq_of_beq ha) k (eq_of_beq hb) rfl
  rw [← List.findIdx?_toArray, Array.toArray_toList] at hfind
  exact hfind

end Distinct

/-! ## Names that can be written -/

namespace Text

/-- The characters that mark comments and set off the types in a descriptor. -/
def reserved : List Char :=
  ['#', ';', '(', ')', '[', ']']

/-- A text that can be written as a name: not empty, and without blanks and reserved characters. -/
def IsName (name : String) : Prop :=
  name ≠ "" ∧ ∀ c ∈ name.toList, isBlank c = false ∧ c ∉ reserved

-- The characters of the name are tested, and not all characters that there are.
instance (name : String) : Decidable (IsName name) :=
  decidable_of_iff
    (name ≠ "" ∧ name.toList.all fun c => isBlank c == false && !reserved.contains c)
    (by simp [IsName])

variable {name : String}

theorem IsName.isWord (h : IsName name) : IsWord name where
  ne_empty := h.1
  notBlank := fun c hc => (h.2 c hc).1

theorem IsName.not_mem (h : IsName name) {c : Char} (hc : c ∈ reserved) : c ∉ name.toList :=
  fun hmem => (h.2 c hmem).2 hc

end Text

/-- A type that can be written: without its dimensions it is a name. -/
def IsTypeName (type : String) : Prop :=
  Text.IsName (splitDimensions type).1

instance (type : String) : Decidable (IsTypeName type) :=
  inferInstanceAs (Decidable (Text.IsName _))

theorem IsTypeName.describable {type : String} (h : IsTypeName type) : Describable type where
  base_ne_empty := h.1
  semicolon := h.not_mem (by decide)
  parenthesis := h.not_mem (by decide)

theorem splitDimensions_of_isName {name : String} (h : Text.IsName name) (depth : Nat) :
    splitDimensions (withDimensions name depth) = (name, depth) :=
  splitDimensions_withDimensions (h.not_mem (by decide)) depth

theorem isTypeName_withDimensions {name : String} (h : Text.IsName name) (depth : Nat) :
    IsTypeName (withDimensions name depth) := by
  rw [IsTypeName, splitDimensions_of_isName h]
  exact h

theorem IsTypeName.noBlank {type : String} (h : IsTypeName type) : Text.NoBlank type := by
  rw [← withDimensions_splitDimensions type]
  exact noBlank_withDimensions h.isWord.notBlank _

theorem Signature.isWord_descriptor {signature : Signature}
    (hparams : ∀ type ∈ signature.params, IsTypeName type)
    (hresult : IsTypeName signature.result) : Text.IsWord signature.descriptor :=
  isWord_descriptor_of_noBlank (fun type htype => (hparams type htype).noBlank) hresult.noBlank

/-! ## Recoverable builds -/

/-- A type of a build that can be told from its written form. Its base is a class that goes by its
community name, or it goes by its human name in both: no class takes its place in a link, and a
class of that name is called the same in the obfuscated build. -/
@[mk_iff]
structure RecoverableType (classes : Array ClassDecl) (type : String) : Prop where
  /-- The type can be written. -/
  isTypeName : IsTypeName type
  /-- No slash is in the type, which would be taken for a dot. -/
  slash : '/' ∉ (splitDimensions type).1.toList
  /-- What stands for the type means the type. -/
  base : (∃ cls ∈ classes, cls.identity.human = some (splitDimensions type).1 ∧
      cls.identity.isLinked) ∨
    ∀ cls ∈ classes, cls.communityKey ≠ some (splitDimensions type).1 ∧
      (cls.identity.human = some (splitDimensions type).1 →
        cls.identity.obfuscated = (splitDimensions type).1)

/-- A class whose names, and those of its members, can be told from their links. -/
@[mk_iff]
structure RecoverableClass (classes : Array ClassDecl) (cls : ClassDecl) : Prop where
  /-- The obfuscated name can be written. -/
  obfuscated : Text.IsName cls.identity.obfuscated
  /-- No slash is in the obfuscated name, which would be taken for a dot. -/
  slash : '/' ∉ cls.identity.obfuscated.toList
  /-- The community name can be written. -/
  community : ∀ name ∈ cls.identity.community, Text.IsName name
  /-- The obfuscated names of the members can be written. -/
  memberObfuscated : ∀ id ∈ cls.fields ++ cls.methods, Text.IsName id.obfuscated
  /-- The community names of the members can be written. -/
  memberCommunity : ∀ id ∈ cls.fields ++ cls.methods, ∀ name ∈ id.community, Text.IsName name
  /-- A member is linked only if the class is. -/
  linked : ∀ id ∈ cls.fields ++ cls.methods, id.isLinked → cls.identity.isLinked
  /-- In a linked class, obfuscated names tell the fields apart. -/
  fields : cls.identity.isLinked → (cls.fields.map (·.obfuscated)).Nodup
  /-- In a linked class, obfuscated names and parameters tell the methods apart. -/
  methods : cls.identity.isLinked →
    (cls.methods.map fun method => (method.obfuscated, method.params)).Nodup
  /-- A linked method has a result type. -/
  result : ∀ method ∈ cls.methods, method.isLinked → method.type.isSome
  /-- The types of a linked method can be told from their written form. -/
  types : ∀ method ∈ cls.methods, method.isLinked →
    ∀ type ∈ method.params ++ method.type.toList, RecoverableType classes type

/-- A build whose names can be told from its links. -/
@[mk_iff]
structure Recoverable (classes : Array ClassDecl) : Prop where
  /-- Obfuscated names tell the classes apart. -/
  obfuscated : (classes.toList.map (·.identity.obfuscated)).Nodup
  /-- Human names tell the classes apart. -/
  human : (classes.toList.filterMap (·.identity.human)).Nodup
  /-- Community names tell the classes apart, also where slashes count as dots. -/
  community : (classes.toList.filterMap ClassDecl.communityKey).Nodup
  /-- Each class can be told from its links. -/
  each : ∀ cls ∈ classes, RecoverableClass classes cls

instance (classes : Array ClassDecl) (type : String) : Decidable (RecoverableType classes type) :=
  decidable_of_iff _ (recoverableType_iff classes type).symm

instance (classes : Array ClassDecl) (cls : ClassDecl) : Decidable (RecoverableClass classes cls) :=
  decidable_of_iff _ (recoverableClass_iff classes cls).symm

instance (classes : Array ClassDecl) : Decidable (Recoverable classes) :=
  decidable_of_iff _ (recoverable_iff classes).symm

/-! ## Lookups in a recoverable build -/

/-- The classes of a registry are those of a build under their community names, and no member of
them has one. -/
structure ClassesLinked (classes : Array ClassDecl) (linked : Registry) : Prop where
  /-- The tables of the registry are right. -/
  indexed : linked.Indexed
  /-- The members are bare, and all else is as in the build. -/
  classes : linked.classes = classes.map ClassDecl.bareMembers

namespace Recoverable

variable {classes : Array ClassDecl} {linked : Registry} (h : Recoverable classes)
  (hlinked : ClassesLinked classes linked)

include h in
theorem humanClass? {cls : ClassDecl} {human : String} (hcls : cls ∈ classes)
    (hhuman : cls.identity.human = some human) :
    (Registry.ofClasses classes).humanClass? human = some cls := by
  obtain ⟨number, hnumber⟩ := Array.mem_iff_getElem?.1 hcls
  have hfind := findIdx?_eq_some_of_nodup_filterMap h.human hnumber hhuman
  rw [(Registry.indexed_ofClasses classes).humanClass?, Registry.classes_ofClasses,
    Array.find?_eq_bind_findIdx?_getElem?, hfind, Option.bind_some, hnumber]

include h hlinked in
/-- Once the classes are linked, a class is found by its community name. -/
theorem communityNumber? {number : Nat} {cls : ClassDecl} {name : String}
    (hcls : classes[number]? = some cls) (hname : cls.identity.community = some name) :
    linked.communityNumber? name = some number := by
  have hkey : cls.communityKey = some (Text.dotted name) := by
    rw [ClassDecl.communityKey, hname, Option.map_some]
  rw [hlinked.indexed.communityNumber?, hlinked.classes, Array.findIdx?_map]
  exact findIdx?_eq_some_of_nodup_filterMap h.community hcls hkey

include h hlinked in
/-- The class that a link names by its community name, dotted or not. -/
theorem ownerOf {number : Nat} {cls : ClassDecl} {name : String}
    (hcls : classes[number]? = some cls) (hname : cls.identity.community = some name) :
    linked.ownerOf (Text.dotted name) = .ok (number, cls.bareMembers) := by
  rw [Registry.ownerOf_eq_ok_iff, Registry.communityNumber?_dotted, hlinked.classes,
    Array.getElem?_map, hcls]
  exact ⟨h.communityNumber? hlinked hcls hname, rfl⟩

include hlinked in
theorem communityClass?_eq_none {name : String}
    (hname : ∀ cls ∈ classes, cls.communityKey ≠ some (Text.dotted name)) :
    linked.communityClass? name = none := by
  rw [hlinked.indexed.communityClass?, hlinked.classes, Array.find?_map, Option.map_eq_none_iff,
    Array.find?_eq_none]
  intro cls hcls heq
  exact hname cls hcls (eq_of_beq heq)

/-! ## Types of a recoverable build -/

include h in
/-- The written form of a type is its base, or a name of the class that is its base, under the same
dimensions. -/
theorem isTypeName_toWrittenType {type : String} (htype : RecoverableType classes type) :
    IsTypeName ((Registry.ofClasses classes).toWrittenType type) := by
  unfold Registry.toWrittenType
  cases hfind : (Registry.ofClasses classes).humanClass? (splitDimensions type).1 with
  | none =>
    simp only [hfind]
    exact htype.isTypeName
  | some cls =>
    simp only [hfind]
    apply isTypeName_withDimensions
    have hcls := h.each cls (Registry.mem_of_humanClass? hfind)
    cases hname : cls.identity.community with
    | none => exact hcls.obfuscated
    | some name => exact hcls.community name hname

include h hlinked in
/-- A type whose base is a linked class is written by the community name, and read back. -/
theorem toHumanType_of_isLinked {type : String} {cls : ClassDecl} (hcls : cls ∈ classes)
    (hhuman : cls.identity.human = some (splitDimensions type).1)
    (hisLinked : cls.identity.isLinked) :
    linked.toHumanType (Text.dotted ((Registry.ofClasses classes).toWrittenType type)) = type := by
  obtain ⟨name, hname⟩ := Option.isSome_iff_exists.1 hisLinked
  obtain ⟨number, hnumber⟩ := Array.mem_iff_getElem?.1 hcls
  have hwritten : (Registry.ofClasses classes).toWrittenType type =
      withDimensions name (splitDimensions type).2 := by
    simp only [Registry.toWrittenType, h.humanClass? hcls hhuman, hname, Option.getD_some]
  have hsplit : splitDimensions (withDimensions (Text.dotted name) (splitDimensions type).2) =
      (Text.dotted name, (splitDimensions type).2) := by
    apply splitDimensions_withDimensions
    intro hmem
    rw [Text.toList_dotted] at hmem
    obtain ⟨c, hc, hbracket⟩ := List.mem_map.1 hmem
    have hsame : c = ']' := by grind [Text.dotForSlash]
    exact ((h.each cls hcls).community name hname).not_mem (by decide) (hsame ▸ hc)
  have hclass : linked.communityClass? (Text.dotted name) = some cls.bareMembers := by
    rw [Registry.communityClass?, Registry.communityNumber?_dotted,
      h.communityNumber? hlinked hnumber hname, Option.bind_some, hlinked.classes,
      Array.getElem?_map, hnumber, Option.map_some]
  have hbase : cls.bareMembers.identity.human = some (splitDimensions type).1 := hhuman
  rw [hwritten, dotted_withDimensions, Registry.toHumanType]
  simp only [hsplit, hclass, Option.bind_some, hbase]
  exact withDimensions_splitDimensions type

include h hlinked in
/-- The written form of a type leads back to the type. -/
theorem toHumanType_dotted_toWrittenType {type : String} (htype : RecoverableType classes type) :
    linked.toHumanType (Text.dotted ((Registry.ofClasses classes).toWrittenType type)) = type := by
  have hdotted : Text.dotted (splitDimensions type).1 = (splitDimensions type).1 :=
    Text.dotted_eq_self htype.slash
  rcases htype.base with ⟨cls, hcls, hhuman, hisLinked⟩ | hplain
  · exact h.toHumanType_of_isLinked hlinked hcls hhuman hisLinked
  · -- No class goes by the base in a link, so the type stays as it is on the way back.
    have hstays : linked.toHumanType type = type := by
      have hnone : linked.communityClass? (splitDimensions type).1 = none := by
        apply communityClass?_eq_none hlinked
        intro cls hcls
        rw [hdotted]
        exact (hplain cls hcls).1
      simp only [Registry.toHumanType, hnone, Option.bind_none]
    have hslash : Text.dotted type = type := by
      rw [← withDimensions_splitDimensions type, dotted_withDimensions, hdotted]
    cases hfind : (Registry.ofClasses classes).humanClass? (splitDimensions type).1 with
    | none =>
      have hwritten : (Registry.ofClasses classes).toWrittenType type = type := by
        simp only [Registry.toWrittenType, hfind]
      rw [hwritten, hslash, hstays]
    | some cls =>
      have hscan := hfind
      rw [(Registry.indexed_ofClasses classes).humanClass?] at hscan
      have hcls : cls ∈ classes := Array.mem_of_find?_eq_some hscan
      have hmatch := Array.find?_some hscan
      have hhuman : cls.identity.human = some (splitDimensions type).1 := eq_of_beq hmatch
      -- The class may be linked after all; if not, its obfuscated name is the base again.
      cases hname : cls.identity.community with
      | some name =>
        have hisLinked : cls.identity.isLinked := by rw [Identifier.isLinked, hname]; rfl
        exact h.toHumanType_of_isLinked hlinked hcls hhuman hisLinked
      | none =>
        have hwritten : (Registry.ofClasses classes).toWrittenType type = type := by
          simp only [Registry.toWrittenType, hfind, hname, Option.getD_none,
            (hplain cls hcls).2 hhuman, withDimensions_splitDimensions]
        rw [hwritten, hslash, hstays]

end Recoverable

end NameCarry
