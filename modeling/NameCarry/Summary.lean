import NameCarry.Carry
import NameCarry.Json

/-!
# Summaries

The summary of a run counts what was read, what was linked, what was carried over and what was left
out.
-/

namespace NameCarry

/-- The counts of a run. -/
structure Summary where
  /-- The classes of the old build. -/
  oldClasses : Nat
  /-- The members of the old build. -/
  oldMembers : Nat
  /-- The links of classes that were carried out, anchors included. -/
  linkedClasses : Nat
  /-- The links of members that were carried out. -/
  linkedMembers : Nat
  /-- The classes of the new build. -/
  newClasses : Nat
  /-- The members of the new build. -/
  newMembers : Nat
  /-- What was carried onto the new build. -/
  tally : Tally
  /-- The exclusions that were rewritten. -/
  rewrittenExclusions : Nat
  /-- The exclusions that stayed. -/
  keptExclusions : Nat
  /-- The number of lines left out of each input, in the order of reading. -/
  lineErrors : List (String × Nat)
  deriving DecidableEq, Repr

namespace Summary

/-- The numbers of lines left out, as a JSON object with a member for each input. -/
def lineErrorsJson (summary : Summary) : Json :=
  .object (summary.lineErrors.map fun (source, count) => (source, .ofNat count))

/-- The summary as a JSON object. -/
def toJson (summary : Summary) : Json :=
  .object
    [("old_classes", .ofNat summary.oldClasses),
      ("old_members", .ofNat summary.oldMembers),
      ("linked_classes", .ofNat summary.linkedClasses),
      ("linked_members", .ofNat summary.linkedMembers),
      ("new_classes", .ofNat summary.newClasses),
      ("new_members", .ofNat summary.newMembers),
      ("bridged_classes", .ofNat summary.tally.classes),
      ("bridged_members", .ofNat summary.tally.members),
      ("retyped_fields", .ofNat summary.tally.retyped),
      ("remapped_excludes", .ofNat summary.rewrittenExclusions),
      ("unchanged_excludes", .ofNat summary.keptExclusions),
      ("line_errors", summary.lineErrorsJson)]

end Summary

end NameCarry
