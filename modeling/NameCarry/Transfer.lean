import NameCarry.Inputs
import NameCarry.Link
import NameCarry.Listing
import NameCarry.Settings
import NameCarry.Summary

/-!
# Transfers

A transfer takes the community names of an old build to a new one:

1. it loads the mapping of the old build,
2. links classes, anchors and members of the old build to their community names, in this order,
3. loads the mapping of the new build and carries the names onto it,
4. takes the exclusion list to the new build,
5. and lists the names of the new build.

A line that cannot be used is left out, so a transfer always has an outcome.
-/

namespace NameCarry

/-- What a transfer leads to. -/
structure Outcome where
  /-- The class links of the new build. -/
  classLinks : List String
  /-- The member links of the new build. -/
  memberLinks : List String
  /-- The exclusion list of the new build. -/
  exclusions : List String
  /-- What was counted. -/
  summary : Summary
  /-- The old build, linked. -/
  old : Registry
  /-- The new build, with the names that were carried onto it. -/
  new : Registry

namespace Transfer

/-- What the lines of the old mapping are called in its report. -/
def oldSource : String := "mojang mapping"

/-- What the class links are called in their report. -/
def classLinkSource : String := "bukkit cl mapping"

/-- What the member links are called in their report. -/
def memberLinkSource : String := "bukkit members mapping"

/-- What the lines of the new mapping are called in its report. -/
def newSource : String := "mojang mapping (new)"

/-- The label of the old build. -/
def oldLabel : String := "old"

/-- The label of the new build. -/
def newLabel : String := "new"

/-- Loads the old build. -/
def loadOld (text : String) : Noted (Array ClassDecl × Report) := do
  let (classes, report) ← loadMapping oldLabel { source := oldSource } text
  Noted.note (.oldClasses classes.size)
  Noted.note (.oldMembers (memberCount classes))
  return (classes, report)

/-- Links the classes of the old build. Gives the number of links. -/
def linkClasses (settings : Settings) (old : Registry) (text : String) :
    Noted (Registry × Nat × Report) := do
  let pass ← old.linkClasses { source := classLinkSource } text
  let (old, anchored) ← pass.state.linkAnchors settings.anchors
  let count := pass.accepted + anchored
  Noted.note (.linkedClasses count)
  return (old, count, pass.report)

/-- Links the members of the old build. -/
def linkMembers (old : Registry) (text : String) : Noted (Pass Registry) := do
  let pass ← old.linkMembers { source := memberLinkSource } text
  Noted.note (.linkedMembers pass.accepted)
  return pass

/-- Loads the new build and carries the names of the old one onto it. -/
def loadNew (old : Registry) (text : String) : Noted (Array ClassDecl × Tally × Report) := do
  let (classes, tally, report) ← loadCarried old newLabel { source := newSource } text
  Noted.note (.newClasses classes.size)
  Noted.note (.newMembers (memberCount classes))
  Noted.note (.carried tally.classes tally.members)
  return (classes, tally, report)

/-- Takes the exclusion list to the new build. -/
def carryExclusions (old new : Registry) (text : String) : Noted (List Exclusion) := do
  let exclusions := Exclusion.ofText old new text
  Noted.note (.exclusions (exclusions.countP Exclusion.isRewritten)
    (exclusions.countP (!·.isRewritten)))
  return exclusions

/-- Runs a transfer from the texts of its inputs. -/
def run (settings : Settings) (texts : Inputs String) : Noted Outcome := do
  let (oldClasses, oldReport) ← loadOld texts.oldMapping
  let (old, linkedClasses, classReport) ←
    linkClasses settings (.ofClasses oldClasses) texts.classLinks
  let members ← linkMembers old texts.memberLinks
  let old := members.state
  let (newClasses, tally, newReport) ← loadNew old texts.newMapping
  let new := Registry.ofClasses newClasses
  let exclusions ← carryExclusions old new texts.exclusions
  return {
    classLinks := new.classLinkLines
    memberLinks := new.memberLinkLines
    exclusions := Exclusion.listing exclusions
    summary := {
      oldClasses := oldClasses.size
      oldMembers := memberCount oldClasses
      linkedClasses
      linkedMembers := members.accepted
      newClasses := newClasses.size
      newMembers := memberCount newClasses
      tally
      rewrittenExclusions := exclusions.countP Exclusion.isRewritten
      keptExclusions := exclusions.countP (!·.isRewritten)
      lineErrors := [oldReport, classReport, members.report, newReport].map fun report =>
        (report.source, report.count) }
    old
    new }

end Transfer

end NameCarry
