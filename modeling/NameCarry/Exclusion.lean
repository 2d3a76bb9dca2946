import NameCarry.Registry.Basic
import NameCarry.Text.Lines

/-!
# Exclusion lists

An exclusion list has the obfuscated name of a class of the old build on each line. On the way to
the new build a name becomes the obfuscated name that the class has there; classes are matched by
their human name. Comments, blank lines and names that lead to no class of the new build stay as
they are.
-/

namespace NameCarry

namespace Registry

/-- The obfuscated name in the new build of the class that has the given obfuscated name in the old
build. Blanks around the name do not count, and slashes count as dots. -/
def renamedExclusion? (old new : Registry) (name : String) : Option String :=
  let name := Text.dotted (String.ofList (Text.trim name.toList))
  ((old.obfuscatedClass? name).bind (·.identity.human)).bind fun human =>
    (new.humanClass? human).map (·.identity.obfuscated)

end Registry

/-- A line of an exclusion list on its way to the new build. -/
inductive Exclusion where
  /-- The line is the name of the class in the new build. -/
  | rewritten (line : String)
  /-- The line stayed as it was. -/
  | kept (line : String)
  deriving DecidableEq, Repr

namespace Exclusion

/-- The line that is written. -/
def line : Exclusion → String
  | rewritten line => line
  | kept line => line

/-- Whether the line was rewritten. -/
def isRewritten : Exclusion → Bool
  | rewritten _ => true
  | kept _ => false

/-- Takes a line to the new build. -/
def ofLine (old new : Registry) (line : String) : Exclusion :=
  if Text.isIgnored line then kept line
  else match old.renamedExclusion? new line with
    | some name => rewritten name
    | none => kept line

/-- Takes a whole list to the new build. -/
def ofText (old new : Registry) (text : String) : List Exclusion :=
  (Text.linesOf text).map (ofLine old new)

end Exclusion

end NameCarry
