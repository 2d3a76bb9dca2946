import NameCarry.Transfer
import NameCarry.Proofs.Carrying
import NameCarry.Proofs.ClassLinks
import NameCarry.Proofs.Declared
import NameCarry.Proofs.MemberLinks

/-!
# The stages of a transfer

A transfer reads five texts one after the other. What it comes to is put together here from what its
stages come to: the old build is the build that its mapping declares, linked by the class links and
the anchors (`Transfer.linkedOld_eq`) and then by the member links (`Transfer.value_run_old`); the
new build is the build that its mapping declares, named after the old one
(`Transfer.value_run_new`).
-/

namespace NameCarry.Transfer

/-- The classes that the mapping of the old build declares. -/
def oldClasses (texts : Inputs String) : Array ClassDecl :=
  (loadMapping oldLabel { source := oldSource } texts.oldMapping).value.1

/-- The classes that the mapping of the new build declares. -/
def newClasses (texts : Inputs String) : Array ClassDecl :=
  (loadMapping newLabel { source := newSource } texts.newMapping).value.1

/-- The old build once its classes and anchors are linked, and before its members are. -/
def linkedOld (settings : Settings) (texts : Inputs String) : Registry :=
  (linkClasses settings (.ofClasses (oldClasses texts)) texts.classLinks).value.1

/-- The links of classes in a transfer, in the order in which they are carried out. -/
def classLinkList (settings : Settings) (texts : Inputs String) : List ClassLink :=
  Registry.linksOf (Text.contentLines texts.classLinks) ++ Registry.anchorLinks settings.anchors

/-- The member links that a transfer carries out, with the numbers of their lines. -/
def usedMemberLinks (settings : Settings) (texts : Inputs String) : List (Nat × String) :=
  Registry.memberReader.used (linkedOld settings texts) (Text.contentLines texts.memberLinks)

variable (settings : Settings) (texts : Inputs String)

theorem linkedOld_eq :
    linkedOld settings texts =
      (Registry.ofClasses (oldClasses texts)).linkAll (classLinkList settings texts) := by
  unfold linkedOld linkClasses classLinkList
  rw [Registry.linkAll_append, ← Registry.value_linkAnchors, ← Registry.run_classReader]
  simp only [Registry.linkClasses_eq_readText, Noted.value_bind, Noted.value_pure,
    LineReader.value_readText]

theorem indexed_linkedOld : (linkedOld settings texts).Indexed := by
  rw [linkedOld_eq]
  exact (Registry.indexed_ofClasses _).linkAll _

/-- The classes of the old build, once they are linked. -/
theorem classes_linkedOld :
    (linkedOld settings texts).classes =
      linkFirsts (ClassLink.lastName? (classLinkList settings texts)) (oldClasses texts) := by
  rw [linkedOld_eq, Registry.classes_linkAll (Registry.indexed_ofClasses _),
    Registry.classes_ofClasses]

/-- The old build in the end: its members are linked as well. -/
theorem value_run_old :
    (run settings texts).value.old =
      (linkedOld settings texts).withMembers
        (lastName? ((linkedOld settings texts).namings (Text.contentLines texts.memberLinks))) := by
  rw [← Registry.run_memberReader]
  simp only [run, loadOld, linkMembers, Noted.value_bind, Noted.value_pure,
    Registry.linkMembers_eq_readText, LineReader.value_readText]
  rfl

/-- The new build in the end: what its mapping declares, named after the old build. -/
theorem value_run_new :
    (run settings texts).value.new =
      Registry.ofClasses ((newClasses texts).map (run settings texts).value.old.carryDecl) := by
  unfold newClasses
  rw [← classes_loadCarried _ newLabel newLabel { source := newSource } { source := newSource }]
  rfl

theorem value_run_classLinks :
    (run settings texts).value.classLinks = (run settings texts).value.new.classLinkLines :=
  rfl

/-! ## The parts of an outcome -/

/-- The old build with its classes and anchors linked, the number of those links, and the report on
the class links. -/
def classStage : Registry × Nat × Report :=
  (linkClasses settings (.ofClasses (oldClasses texts)) texts.classLinks).value

/-- The pass over the member links. -/
def memberStage : Pass Registry :=
  (linkMembers (linkedOld settings texts) texts.memberLinks).value

/-- The classes of the new build, named after the old one, with what was counted and reported. -/
def carryStage : Array ClassDecl × Tally × Report :=
  (loadCarried (run settings texts).value.old newLabel { source := newSource }
    texts.newMapping).value

/-- The lines of the exclusion list, each as it is taken to the new build. -/
def exclusionStage : List Exclusion :=
  Exclusion.ofText (run settings texts).value.old (run settings texts).value.new texts.exclusions

theorem value_run_summary :
    (run settings texts).value.summary =
      { oldClasses := (oldClasses texts).size
        oldMembers := memberCount (oldClasses texts)
        linkedClasses := (classStage settings texts).2.1
        linkedMembers := (memberStage settings texts).accepted
        newClasses := (carryStage settings texts).1.size
        newMembers := memberCount (carryStage settings texts).1
        tally := (carryStage settings texts).2.1
        rewrittenExclusions := (exclusionStage settings texts).countP Exclusion.isRewritten
        keptExclusions := (exclusionStage settings texts).countP (!·.isRewritten)
        lineErrors := [(loadMapping oldLabel { source := oldSource } texts.oldMapping).value.2,
          (classStage settings texts).2.2, (memberStage settings texts).report,
          (carryStage settings texts).2.2].map fun report => (report.source, report.count) } := by
  simp only [run, loadOld, loadNew, carryExclusions, classStage, memberStage, carryStage,
    exclusionStage, linkedOld, oldClasses, Noted.value_bind, Noted.value_pure]

theorem classes_run_new :
    (run settings texts).value.new.classes = (carryStage settings texts).1 := by
  simp only [run, loadNew, carryStage, Noted.value_bind, Noted.value_pure,
    Registry.classes_ofClasses]

theorem value_run_memberLinks :
    (run settings texts).value.memberLinks = (run settings texts).value.new.memberLinkLines := by
  simp only [run, Noted.value_bind, Noted.value_pure]

theorem value_run_exclusions :
    (run settings texts).value.exclusions =
      Exclusion.listing (exclusionStage settings texts) := by
  simp only [run, carryExclusions, exclusionStage, Noted.value_bind, Noted.value_pure]

theorem value_classStage :
    classStage settings texts =
      ((linkedOld settings texts),
        (Registry.classReader.used (.ofClasses (oldClasses texts))
          (Text.contentLines texts.classLinks)).length +
        ((Registry.classReader.run (.ofClasses (oldClasses texts))
          (Text.contentLines texts.classLinks)).linkAnchors settings.anchors).value.2,
        { source := classLinkSource
          skipped := (Registry.classReader.refused (.ofClasses (oldClasses texts))
            (Text.contentLines texts.classLinks)).toArray }) := by
  simp only [classStage, linkedOld, linkClasses, Registry.linkClasses_eq_readText,
    Noted.value_bind, Noted.value_pure, LineReader.value_readText, Array.empty_append]

theorem value_memberStage :
    memberStage settings texts =
      { state := (run settings texts).value.old
        accepted := (usedMemberLinks settings texts).length
        report := {
          source := memberLinkSource
          skipped := (Registry.memberReader.refused (linkedOld settings texts)
            (Text.contentLines texts.memberLinks)).toArray } } := by
  rw [value_run_old, ← Registry.run_memberReader]
  simp only [memberStage, linkMembers, Registry.linkMembers_eq_readText, usedMemberLinks,
    Noted.value_bind, Noted.value_pure, LineReader.value_readText, Array.empty_append]

end NameCarry.Transfer
