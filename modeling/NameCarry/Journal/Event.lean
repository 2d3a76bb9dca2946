import NameCarry.Fault
import NameCarry.Journal.Level

/-!
# Events

What happens in a run that a reader may want to follow. Each event has a level and a text.
-/

namespace NameCarry

/-- Something that happened in a run. -/
inductive Event where
  /-- A class of the build with the given label was read. -/
  | classRead (label obfuscated human : String)
  /-- A line of a source was left out. -/
  | lineSkipped (source : String) (number : Nat) (raw : String)
  /-- Why it was left out. -/
  | skippedFor (fault : Fault)
  /-- Why it was left out, in full. -/
  | faultDetail (fault : Fault)
  /-- An anchor is not the name of a class. -/
  | anchorMissing (anchor : String) (fault : Fault)
  /-- A field of the new build has another type than its namesake in the old one. -/
  | fieldRetyped (owner field expected found : String)
  /-- A field of the new build got its community name. -/
  | fieldCarried (owner obfuscated human community : String)
  /-- A run could not start. -/
  | refused (fault : Fault)
  /-- The inputs exist and are about to be read. -/
  | loadingFiles
  /-- The number of classes in the old build. -/
  | oldClasses (count : Nat)
  /-- The number of members in the old build. -/
  | oldMembers (count : Nat)
  /-- The number of links from classes of the old build to community names. -/
  | linkedClasses (count : Nat)
  /-- The number of links from members of the old build to community names. -/
  | linkedMembers (count : Nat)
  /-- The number of classes in the new build. -/
  | newClasses (count : Nat)
  /-- The number of members in the new build. -/
  | newMembers (count : Nat)
  /-- The numbers of classes and members of the new build that got a community name. -/
  | carried (classes members : Nat)
  /-- The numbers of exclusions that were rewritten and that stayed. -/
  | exclusions (rewritten kept : Nat)
  /-- The outputs are about to be written. -/
  | writingFiles
  /-- All outputs are written. -/
  | complete
  deriving DecidableEq, Repr

namespace Event

/-- How important an event is. -/
def level : Event → Level
  | classRead .. => .trace
  | lineSkipped .. | skippedFor _ | refused _ => .error
  | faultDetail _ | fieldCarried .. => .debug
  | anchorMissing .. | fieldRetyped .. => .warn
  | loadingFiles | oldClasses _ | oldMembers _ | linkedClasses _ | linkedMembers _ | newClasses _
  | newMembers _ | carried .. | exclusions .. | writingFiles | complete => .info

/-- An event in words. -/
def text : Event → String
  | classRead label obfuscated human => label ++ " '" ++ obfuscated ++ "' -> '" ++ human ++ "'"
  | lineSkipped source number raw =>
    "Invalid " ++ source ++ " at line " ++ toString number ++ ": " ++ raw
  | skippedFor fault => "Error message: " ++ fault.kind.name ++ ": " ++ fault.message
  | faultDetail fault => fault.detail
  | anchorMissing anchor fault => "Unable to anchor " ++ anchor ++ ": " ++ fault.message
  | fieldRetyped owner field expected found =>
    owner ++ ": Type differs from original field '" ++ field ++ "': expected: " ++ expected ++
      ", new: " ++ found
  | fieldCarried owner obfuscated human community =>
    owner ++ ": " ++ obfuscated ++ " - " ++ human ++ " - " ++ community
  | refused fault => fault.message
  | loadingFiles => "Loading files"
  | oldClasses count => "Old: " ++ toString count ++ " classes loaded"
  | oldMembers count => "Old: " ++ toString count ++ " members loaded"
  | linkedClasses count => "Linked " ++ toString count ++ " classes (Bukkit <-> Mojang)"
  | linkedMembers count => "Linked " ++ toString count ++ " members (Bukkit <-> Mojang)"
  | newClasses count => "New: " ++ toString count ++ " classes loaded"
  | newMembers count => "New: " ++ toString count ++ " members loaded"
  | carried classes members =>
    "Bridged " ++ toString classes ++ " classes and " ++ toString members ++
      " members onto the new mappings"
  | exclusions rewritten kept =>
    "Remapped " ++ toString rewritten ++ " excludes (" ++ toString kept ++ " unchanged)"
  | writingFiles => "Writing files"
  | complete => "Complete!"

end Event

/-- The events that a threshold lets through, as level labels and texts. -/
def Threshold.messages (threshold : Threshold) (events : Array Event) : List (String × String) :=
  (events.toList.filter fun event => threshold.shows event.level).map fun event =>
    (event.level.label, event.text)

end NameCarry
