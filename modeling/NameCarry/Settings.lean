import NameCarry.Json

/-!
# Settings

The one setting of a run is the list of its anchors: the classes that are called the same in every
build, and that the community calls so too.
-/

namespace NameCarry

/-- The settings of a run. -/
structure Settings where
  /-- The names of the anchors. -/
  anchors : List String
  deriving DecidableEq, Repr

namespace Settings

/-- The anchors of a run that names none. The entry points of the server are never renamed, and no
class link lists them. -/
def defaultAnchors : List String :=
  ["net.minecraft.server.MinecraftServer", "net.minecraft.server.Main"]

/-- The settings of a run that sets nothing. -/
def default : Settings :=
  { anchors := defaultAnchors }

/-- The settings that a JSON value gives: an object with the member `anchors`, or an array that
holds its value alone. The member can be left out, but cannot have another form than a list of
strings. Other members of an object do not count. -/
def ofJson? : Json → Option Settings
  | .object members =>
    match Json.member? "anchors" members with
    | none => some default
    | some value => value.asStrings?.map Settings.mk
  | .array [] => some default
  | .array [value] => value.asStrings?.map Settings.mk
  | _ => none

end Settings

end NameCarry
