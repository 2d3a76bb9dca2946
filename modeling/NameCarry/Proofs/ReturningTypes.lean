import Mathlib.Tactic.MkIffOfInductiveProp
import NameCarry.Proofs.Descriptors
import NameCarry.Proofs.Lookups

/-!
# Types that are written out and read as themselves

A type with a human name is written out under the community name of its class, or the obfuscated
name if the class is not linked, and what is written is read by community name. So a type may come
back under another name, or not be known any more. Where human names tell the classes apart, the
types that come back are those of `Registry.Returns`, and no others
(`Registry.toHumanType_toWrittenType_eq_self_iff`).

Dimensions have no part in it, as both directions leave them where they are.
-/

namespace NameCarry.Registry

variable {registry : Registry} {base written : String}

/-! ## Types under dimensions -/

/-- Only what stands under the dimensions is looked up. -/
theorem toHumanType_withDimensions (registry : Registry) (name : String) (depth : Nat) :
    registry.toHumanType (withDimensions name depth) =
      withDimensions (registry.toHumanType name) depth := by
  simp only [toHumanType, splitDimensions_withDimensions_add]
  cases (registry.communityClass? (splitDimensions name).1).bind (·.identity.human) with
  | none => rfl
  | some human => exact (withDimensions_withDimensions _ _ _).symm

theorem toWrittenType_withDimensions (registry : Registry) (name : String) (depth : Nat) :
    registry.toWrittenType (withDimensions name depth) =
      withDimensions (registry.toWrittenType name) depth := by
  simp only [toWrittenType, splitDimensions_withDimensions_add]
  cases registry.humanClass? (splitDimensions name).1 with
  | none => rfl
  | some cls => exact (withDimensions_withDimensions _ _ _).symm

theorem toHumanType_of_base (h : splitDimensions written = (written, 0)) :
    registry.toHumanType written =
      ((registry.communityClass? written).bind (·.identity.human)).getD written := by
  simp only [toHumanType, h, withDimensions_zero]
  cases (registry.communityClass? written).bind (·.identity.human) <;> rfl

theorem toWrittenType_of_known {cls : ClassDecl} (h : splitDimensions base = (base, 0))
    (hcls : registry.humanClass? base = some cls) :
    registry.toWrittenType base = cls.identity.community.getD cls.identity.obfuscated := by
  simp only [toWrittenType, h, hcls, withDimensions_zero]

theorem toWrittenType_of_unknown (h : splitDimensions base = (base, 0))
    (hnone : registry.humanClass? base = none) : registry.toWrittenType base = base := by
  simp only [toWrittenType, h, hnone]

/-- A type returns if what stands under its dimensions does. -/
theorem toHumanType_toWrittenType_iff_base (registry : Registry) (name : String) :
    registry.toHumanType (registry.toWrittenType name) = name ↔
      registry.toHumanType (registry.toWrittenType (splitDimensions name).1) =
        (splitDimensions name).1 := by
  have hname : registry.toHumanType (registry.toWrittenType name) =
      withDimensions (registry.toHumanType (registry.toWrittenType (splitDimensions name).1))
        (splitDimensions name).2 := by
    rw [← toHumanType_withDimensions, ← toWrittenType_withDimensions,
      withDimensions_splitDimensions]
  have hself : name = withDimensions (splitDimensions name).1 (splitDimensions name).2 :=
    (withDimensions_splitDimensions name).symm
  rw [hname]
  exact (Eq.congr_right hself).trans withDimensions_inj

/-! ## The types that return -/

/-- Each class has a human name of its own, and no class is written out under a name that looks
like that of an array. -/
@[mk_iff]
structure Resolvable (classes : Array ClassDecl) : Prop where
  /-- Every class has a human name. -/
  named : ∀ cls ∈ classes, cls.identity.human.isSome
  /-- Two classes differ in their human names. -/
  human : (classes.toList.map (·.identity.human)).Nodup
  /-- No obfuscated name ends with a pair of brackets. -/
  obfuscated : ∀ cls ∈ classes, ¬ ['[', ']'] <:+ cls.identity.obfuscated.toList
  /-- No community name ends with a pair of brackets. -/
  community : ∀ cls ∈ classes, ∀ name ∈ cls.identity.community, ¬ ['[', ']'] <:+ name.toList

instance (classes : Array ClassDecl) : Decidable (Resolvable classes) :=
  decidable_of_iff _ (resolvable_iff classes).symm

/-- The names under which a class or a type from outside is found again once it was written out.
They are names without dimensions. -/
inductive Returns (classes : Array ClassDecl) (base : String) : Prop where
  /-- A linked class that comes first among the classes with its community name, in its dotted
  form. -/
  | linked (cls : ClassDecl) (community : String) (hcls : cls ∈ classes)
      (hhuman : cls.identity.human = some base) (hcommunity : cls.identity.community = some community)
      (hfirst : classes.find? (·.communityKey == some (Text.dotted community)) = some cls)
  /-- A class that is not linked and has one name both times, if no class is found by the name. -/
  | unlinked (cls : ClassDecl) (hcls : cls ∈ classes) (hhuman : cls.identity.human = some base)
      (hcommunity : cls.identity.community = none) (hobfuscated : cls.identity.obfuscated = base)
      (hfree : ∀ other ∈ classes, other.communityKey ≠ some (Text.dotted base))
  /-- A type that is none of the classes, if no class is found by its name. -/
  | outside (hhuman : ∀ cls ∈ classes, cls.identity.human ≠ some base)
      (hfree : ∀ cls ∈ classes, cls.communityKey ≠ some (Text.dotted base))

/-- What is written is read as the name of the class that is found by it. -/
theorem Resolvable.toHumanType_eq_iff (hres : Resolvable registry.classes)
    (hwritten : splitDimensions written = (written, 0)) :
    registry.toHumanType written = base ↔
      (∃ cls, registry.communityClass? written = some cls ∧ cls.identity.human = some base) ∨
        registry.communityClass? written = none ∧ written = base := by
  rw [toHumanType_of_base hwritten]
  cases hfind : registry.communityClass? written with
  | none => simp
  | some cls =>
    obtain ⟨human, hhuman⟩ :=
      Option.isSome_iff_exists.1 (hres.named cls (mem_of_communityClass? hfind))
    simp [hhuman]

section Base

variable (hres : Resolvable registry.classes) (hindexed : registry.Indexed)
  (hbase : splitDimensions base = (base, 0))

include hres hindexed hbase

theorem Resolvable.returns_iff_of_unknown (hnone : registry.humanClass? base = none) :
    registry.toHumanType (registry.toWrittenType base) = base ↔
      ∀ cls ∈ registry.classes, cls.communityKey ≠ some (Text.dotted base) := by
  have hunknown := (hindexed.answersByScan.human_none base).1 hnone
  rw [toWrittenType_of_unknown hbase hnone, hres.toHumanType_eq_iff hbase,
    ← hindexed.answersByScan.community_none]
  constructor
  · rintro (⟨other, hother, hhuman⟩ | ⟨hfree, -⟩)
    · exact absurd hhuman (hunknown other (mem_of_communityClass? hother))
    · exact hfree
  · intro hfree
    exact .inr ⟨hfree, rfl⟩

variable {cls : ClassDecl} (hcls : registry.humanClass? base = some cls)

include hcls

/-- What is written for a class is read as its human name if the class itself is found by it, or if
none is and the two names are the same. -/
theorem Resolvable.returns_iff_of_known
    (hwritten : cls.identity.community.getD cls.identity.obfuscated = written)
    (hsuffix : ¬ ['[', ']'] <:+ written.toList) :
    registry.toHumanType (registry.toWrittenType base) = base ↔
      registry.communityClass? written = some cls ∨
        registry.communityClass? written = none ∧ written = base := by
  obtain ⟨hmem, hhuman⟩ := (hindexed.humanClass?_eq_some_iff hres.human).1 hcls
  rw [toWrittenType_of_known hbase hcls, hwritten,
    hres.toHumanType_eq_iff (splitDimensions_of_not_isSuffix hsuffix)]
  refine or_congr_left ⟨?_, fun hfind => ⟨cls, hfind, hhuman⟩⟩
  rintro ⟨other, hother, hsame⟩
  have hclass : other = cls := List.inj_on_of_nodup_map hres.human
    (mem_of_communityClass? hother).val hmem.val (hsame.trans hhuman.symm)
  rw [hother, hclass]

theorem Resolvable.returns_iff_of_linked {community : String}
    (hcommunity : cls.identity.community = some community) :
    registry.toHumanType (registry.toWrittenType base) = base ↔
      registry.classes.find? (·.communityKey == some (Text.dotted community)) = some cls := by
  have hmem := mem_of_humanClass? hcls
  have hkey : cls.communityKey = some (Text.dotted community) := by
    rw [ClassDecl.communityKey, hcommunity, Option.map_some]
  have hwritten : cls.identity.community.getD cls.identity.obfuscated = community := by
    rw [hcommunity, Option.getD_some]
  rw [hres.returns_iff_of_known hindexed hbase hcls hwritten
    (hres.community cls hmem community hcommunity), ← hindexed.communityClass?]
  -- The class itself bears the name, so some class is found.
  refine or_iff_left ?_
  rintro ⟨hnone, -⟩
  exact (hindexed.answersByScan.community_none community).1 hnone cls hmem hkey

theorem Resolvable.returns_iff_of_unlinked (hcommunity : cls.identity.community = none) :
    registry.toHumanType (registry.toWrittenType base) = base ↔
      cls.identity.obfuscated = base ∧
        ∀ other ∈ registry.classes, other.communityKey ≠ some (Text.dotted base) := by
  have hwritten : cls.identity.community.getD cls.identity.obfuscated = cls.identity.obfuscated := by
    rw [hcommunity, Option.getD_none]
  have hnotFound : registry.communityClass? cls.identity.obfuscated ≠ some cls := by
    intro hfind
    rw [hindexed.communityClass?] at hfind
    have hkey := Array.find?_some hfind
    simp [ClassDecl.communityKey, hcommunity] at hkey
  rw [hres.returns_iff_of_known hindexed hbase hcls hwritten
    (hres.obfuscated cls (mem_of_humanClass? hcls)), or_iff_right hnotFound,
    ← hindexed.answersByScan.community_none]
  constructor
  · rintro ⟨hnone, rfl⟩
    exact ⟨rfl, hnone⟩
  · rintro ⟨rfl, hnone⟩
    exact ⟨hnone, rfl⟩

omit hcls

theorem Resolvable.returns_iff :
    registry.toHumanType (registry.toWrittenType base) = base ↔ Returns registry.classes base := by
  have hknown : ∀ cls, registry.humanClass? base = some cls ↔
      cls ∈ registry.classes ∧ cls.identity.human = some base :=
    fun cls => hindexed.humanClass?_eq_some_iff hres.human
  constructor
  · intro h
    cases hfind : registry.humanClass? base with
    | none =>
      exact .outside ((hindexed.answersByScan.human_none base).1 hfind)
        ((hres.returns_iff_of_unknown hindexed hbase hfind).1 h)
    | some cls =>
      obtain ⟨hcls, hhuman⟩ := (hknown cls).1 hfind
      cases hcommunity : cls.identity.community with
      | none =>
        obtain ⟨hobfuscated, hfree⟩ :=
          (hres.returns_iff_of_unlinked hindexed hbase hfind hcommunity).1 h
        exact .unlinked cls hcls hhuman hcommunity hobfuscated hfree
      | some community =>
        exact .linked cls community hcls hhuman hcommunity
          ((hres.returns_iff_of_linked hindexed hbase hfind hcommunity).1 h)
  · intro h
    cases h with
    | linked cls community hcls hhuman hcommunity hfirst =>
      exact (hres.returns_iff_of_linked hindexed hbase ((hknown cls).2 ⟨hcls, hhuman⟩)
        hcommunity).2 hfirst
    | unlinked cls hcls hhuman hcommunity hobfuscated hfree =>
      exact (hres.returns_iff_of_unlinked hindexed hbase ((hknown cls).2 ⟨hcls, hhuman⟩)
        hcommunity).2 ⟨hobfuscated, hfree⟩
    | outside hhuman hfree =>
      exact (hres.returns_iff_of_unknown hindexed hbase
        ((hindexed.answersByScan.human_none base).2 hhuman)).2 hfree

end Base

/-- After any run of links, a type returns exactly if its class, or the type from outside, is one
of those that are found again; and one more dimension behind a type stays behind it. -/
theorem toHumanType_toWrittenType_eq_self_iff (classes : Array ClassDecl) (ops : List LinkOp) :
    let registry := LinkOp.run (ofClasses classes) ops
    (Resolvable registry.classes → ∀ name,
      (registry.toHumanType (registry.toWrittenType name) = name ↔
        Returns registry.classes (splitDimensions name).1)) ∧
    (∀ name, registry.toHumanType (name ++ "[]") = registry.toHumanType name ++ "[]") ∧
    ∀ name, registry.toWrittenType (name ++ "[]") = registry.toWrittenType name ++ "[]" := by
  intro registry
  have hindexed : registry.Indexed := (indexed_ofClasses classes).run ops
  refine ⟨fun hres name => ?_, fun name => ?_, fun name => ?_⟩
  · have hbase := splitDimensions_base name
    rw [toHumanType_toWrittenType_iff_base]
    exact hres.returns_iff hindexed hbase
  · rw [← withDimensions_one, ← withDimensions_one, toHumanType_withDimensions]
  · rw [← withDimensions_one, ← withDimensions_one, toWrittenType_withDimensions]

/-- Two classes are linked to one community name, in its two spellings. -/
def coop : Registry :=
  LinkOp.run (ofClasses #[{ identity := .ofClass "a" "Hen" }, { identity := .ofClass "b" "Cock" }])
    [.cls "a" "farm/Fowl", .cls "b" "farm.Fowl"]

theorem toHumanType_toWrittenType_eq_self_iff_coop :
    Resolvable coop.classes ∧ coop.toHumanType (coop.toWrittenType "Hen[]") = "Hen[]" := by
  have hres : Resolvable coop.classes := by decide +kernel
  have hhen : Returns coop.classes (splitDimensions "Hen[]").1 :=
    .linked { identity := (Identifier.ofClass "a" "Hen").link "farm/Fowl" } "farm/Fowl"
      (by decide +kernel) (by decide +kernel) rfl (by decide +kernel)
  obtain ⟨hiff, -, -⟩ := toHumanType_toWrittenType_eq_self_iff
    #[{ identity := .ofClass "a" "Hen" }, { identity := .ofClass "b" "Cock" }]
    [.cls "a" "farm/Fowl", .cls "b" "farm.Fowl"]
  exact ⟨hres, (hiff hres "Hen[]").2 hhen⟩

end NameCarry.Registry
