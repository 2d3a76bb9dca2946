/-!
# Dotted names

A class is written `net/minecraft/Entity` or `net.minecraft.Entity`, with the same meaning. The
dotted form of a name has a dot for each slash. Two names of one class have the same dotted form.
-/

namespace NameCarry.Text

/-- A slash becomes a dot; every other character stays. -/
def dotForSlash (c : Char) : Char :=
  if c = '/' then '.' else c

/-- A dot becomes a slash; every other character stays. -/
def slashForDot (c : Char) : Char :=
  if c = '.' then '/' else c

/-- The name with each slash turned into a dot. -/
def dotted (name : String) : String :=
  name.map dotForSlash

theorem dotForSlash_dotForSlash (c : Char) : dotForSlash (dotForSlash c) = dotForSlash c := by
  grind [dotForSlash]

@[simp]
theorem toList_dotted (name : String) : (dotted name).toList = name.toList.map dotForSlash := by
  simp [dotted]

/-- A dotted name is its own dotted form. -/
@[simp]
theorem dotted_dotted (name : String) : dotted (dotted name) = dotted name := by
  apply String.toList_inj.1
  simp [dotForSlash_dotForSlash]

end NameCarry.Text
