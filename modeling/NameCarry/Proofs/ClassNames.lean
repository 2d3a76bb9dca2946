import Mathlib.Data.List.Basic
import NameCarry.Proofs.Listings
import NameCarry.Proofs.Transfers

/-!
# The class links of the new build

Which class links a transfer writes can be read off its inputs, without going through its stages
(`Transfer.classLinks_run`). A class of the new build is named after the old class with its human
name. If there are several, it is the first of them; and that one has a name to give only if it is
also the first old class with its own obfuscated name, since a link of this name goes to the first
one. The name is that of the last line that links it, or its own obfuscated name if it is an anchor.
-/

namespace NameCarry.Transfer

/-- The community name that a line gives to the class with the given obfuscated name. -/
def linkNameIn? (obfuscated line : String) : Option String :=
  match Text.tokens line with
  | first :: second :: _ => if Text.dotted first = obfuscated then some second else none
  | _ => none

/-- The community name in the last line that links the class with the given obfuscated name. -/
def lastLinkName? (text obfuscated : String) : Option String :=
  ((Text.contentLines text).filterMap fun line => linkNameIn? obfuscated line.2).getLast?

/-- The old class that a class of the new build is named after: the first one with its human name,
if this is also the first one with its own obfuscated name. -/
def namedAfter? (old : Array ClassDecl) (cls : ClassDecl) : Option ClassDecl := do
  let human ← cls.identity.human
  let number ← old.findIdx? (·.identity.human == some human)
  let namesake ← old[number]?
  if old.findIdx? (·.identity.obfuscated == namesake.identity.obfuscated) = some number then
    some namesake
  else none

/-- The community name that a class of the new build has in the end. -/
def finalName? (anchors : List String) (linkText : String) (old : Array ClassDecl)
    (cls : ClassDecl) : Option String := do
  let namesake ← namedAfter? old cls
  let obfuscated := namesake.identity.obfuscated
  if obfuscated ∈ anchors then some obfuscated else lastLinkName? linkText obfuscated

theorem linkNameIn?_eq_bind (obfuscated line : String) :
    linkNameIn? obfuscated line = (ClassLink.read line).toOption.bind fun link =>
      if link.obfuscated = obfuscated then some link.community else none := by
  unfold ClassLink.read linkNameIn?
  cases Text.tokens line with
  | nil => rfl
  | cons first rest =>
    cases rest with
    | nil => rfl
    | cons second rest => rfl

theorem lastName?_linksOf (text obfuscated : String) :
    ClassLink.lastName? (Registry.linksOf (Text.contentLines text)) obfuscated =
      lastLinkName? text obfuscated := by
  have hentries : ∀ links : List ClassLink,
      ((links.map fun link => (link.obfuscated, link.community)).filter
          (·.1 == obfuscated)).map (·.2) =
        links.filterMap fun link =>
          if link.obfuscated = obfuscated then some link.community else none := by
    intro links
    induction links with
    | nil => rfl
    | cons link links ih =>
      by_cases hname : link.obfuscated = obfuscated
      · simp [hname, ih]
      · simp [hname, ih]
  unfold ClassLink.lastName? lastName? lastLinkName? Registry.linksOf
  rw [← List.getLast?_map, hentries, List.filterMap_filterMap]
  congr 1
  congr 1
  funext line
  exact (linkNameIn?_eq_bind obfuscated line.2).symm

/-- The last link of a class in a whole transfer: its own name if it is an anchor. -/
theorem lastName?_classLinkList (settings : Settings) (texts : Inputs String)
    (obfuscated : String) :
    ClassLink.lastName? (classLinkList settings texts) obfuscated =
      if obfuscated ∈ settings.anchors then some obfuscated
      else lastLinkName? texts.classLinks obfuscated := by
  unfold classLinkList
  rw [Registry.lastName?_append_anchorLinks, lastName?_linksOf]

theorem findIdx?_human_linkFirsts (names : String → Option String) (classes : Array ClassDecl)
    (human : String) :
    (linkFirsts names classes).findIdx? (·.identity.human == some human) =
      classes.findIdx? (·.identity.human == some human) := by
  apply findIdx?_congr_getElem (by simp)
  intro number _ h
  rw [getElem_linkFirsts h]
  split <;> rfl

/-- The community name of a class of the old build in the end. Only the first class with its
obfuscated name has one. -/
theorem community_classes_linkedOld (settings : Settings) (texts : Inputs String) {number : Nat}
    (h : number < (oldClasses texts).size) :
    ((linkedOld settings texts).classes[number]?.bind (·.identity.community)) =
      if (oldClasses texts).findIdx? (·.identity.obfuscated ==
          (oldClasses texts)[number].identity.obfuscated) = some number then
        if (oldClasses texts)[number].identity.obfuscated ∈ settings.anchors then
          some (oldClasses texts)[number].identity.obfuscated
        else lastLinkName? texts.classLinks (oldClasses texts)[number].identity.obfuscated
      else none := by
  have hdeclared : ((oldClasses texts)[number]).Declared :=
    declared_of_mem_loadMapping (Array.getElem_mem h)
  have hlinked : number < (linkFirsts (ClassLink.lastName? (classLinkList settings texts))
      (oldClasses texts)).size := by simpa using h
  rw [classes_linkedOld, Array.getElem?_eq_getElem hlinked, Option.bind_some,
    getElem_linkFirsts h hlinked]
  split
  · rw [← lastName?_classLinkList]
    show (ClassLink.lastName? _ _).or _ = _
    rw [hdeclared.community, Option.or_none]
  · exact hdeclared.community

/-- The name that a class takes from the old build is the one that the inputs say. -/
theorem carriedClassName?_old (settings : Settings) (texts : Inputs String) (cls : ClassDecl) :
    (run settings texts).value.old.carriedClassName? cls.identity =
      finalName? settings.anchors texts.classLinks (oldClasses texts) cls := by
  unfold Registry.carriedClassName? Registry.namesake? finalName? namedAfter?
  rw [value_run_old]
  cases cls.identity.human with
  | none => rfl
  | some human =>
    have hfind : (linkedOld settings texts).byHuman[human]? =
        (oldClasses texts).findIdx? (·.identity.human == some human) := by
      rw [(indexed_linkedOld settings texts).byHuman, classes_linkedOld,
        findIdx?_human_linkFirsts]
    simp only [bind, Option.bind_some, Registry.humanClass?_withMembers, hfind]
    cases hnumber : (oldClasses texts).findIdx? (·.identity.human == some human) with
    | none => rfl
    | some number =>
      obtain ⟨hlt, -⟩ := Array.findIdx?_eq_some_iff_getElem.1 hnumber
      have hcommunity := community_classes_linkedOld settings texts hlt
      have hnamed : ((linkedOld settings texts).classes[number]?.map
          (ClassDecl.nameMembers (lastName? ((linkedOld settings texts).namings
            (Text.contentLines texts.memberLinks))) number)).bind (·.identity.community) =
          (linkedOld settings texts).classes[number]?.bind (·.identity.community) := by
        cases (linkedOld settings texts).classes[number]? <;> rfl
      simp only [Option.bind_some, Array.getElem?_eq_getElem hlt]
      rw [hnamed, hcommunity]
      split
      · rfl
      · rfl

/-- The class links that a transfer writes are the sorted lines of the classes of the new build that
have a community name in the end, and each has the name that the inputs say. -/
theorem classLinks_run (settings : Settings) (texts : Inputs String) :
    (run settings texts).value.classLinks.Pairwise (· ≤ ·) ∧
      (run settings texts).value.classLinks.Perm
        ((newClasses texts).toList.filterMap fun cls =>
          (finalName? settings.anchors texts.classLinks (oldClasses texts) cls).map fun name =>
            cls.identity.obfuscated ++ " " ++ name) := by
  rw [value_run_classLinks, value_run_new]
  refine ⟨pairwise_sortLines _, (sortLines_perm _).trans (List.Perm.of_eq ?_)⟩
  rw [Registry.classes_ofClasses, Array.toList_map, List.filterMap_map]
  apply List.filterMap_congr
  intro cls hcls
  have hdeclared : cls.Declared := declared_of_mem_loadMapping (Array.mem_toList_iff.1 hcls)
  have hcarried : ((run settings texts).value.old.carryDecl cls).identity.community =
      finalName? settings.anchors texts.classLinks (oldClasses texts) cls := by
    rw [← carriedClassName?_old]
    show (Registry.carriedClassName? _ _).or _ = _
    rw [hdeclared.community, Option.or_none]
  show Registry.classLinkLine? _ = _
  unfold Registry.classLinkLine?
  rw [hcarried]
  rfl

end NameCarry.Transfer
