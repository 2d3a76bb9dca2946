/-!
# Cutting a text at a separator

`cutFirst?` cuts at the first place where the separator stands and `cutLast?` at the last one; both
give the text before the separator and the text behind it. Places may overlap: in `" -> -> "` the
separator `" -> "` stands at two places that share a blank, and `cutLast?` takes the second.
-/

namespace NameCarry.Text

/-- Looks for `sep` in the rest of a text whose characters before it are `seen`, last one first. -/
def cutBehind? (sep seen : List Char) : List Char → Option (List Char × List Char)
  | [] => if sep.isEmpty then some (seen.reverse, []) else none
  | c :: cs =>
    if sep.isPrefixOf (c :: cs) then some (seen.reverse, (c :: cs).drop sep.length)
    else cutBehind? sep (c :: seen) cs

/-- The text before and behind the first place where `sep` stands in `cs`. -/
def cutFirst? (sep cs : List Char) : Option (List Char × List Char) :=
  cutBehind? sep [] cs

/-- The text before and behind the last place where `sep` stands in `cs`. -/
def cutLast? (sep cs : List Char) : Option (List Char × List Char) :=
  (cutFirst? sep.reverse cs.reverse).map fun (behind, before) => (before.reverse, behind.reverse)

/-- What lies around a cut and the separator between make up the whole text. -/
theorem append_of_cutBehind? {sep seen cs before behind : List Char}
    (h : cutBehind? sep seen cs = some (before, behind)) :
    before ++ sep ++ behind = seen.reverse ++ cs := by
  induction cs generalizing seen with
  | nil =>
    simp only [cutBehind?, Option.ite_none_right_eq_some, Option.some.injEq, Prod.mk.injEq,
      List.isEmpty_iff] at h
    obtain ⟨rfl, rfl, rfl⟩ := h
    simp
  | cons c cs ih =>
    simp only [cutBehind?] at h
    split at h
    · next hp =>
      obtain ⟨rest, hrest⟩ := List.isPrefixOf_iff_prefix.1 hp
      simp only [Option.some.injEq, Prod.mk.injEq] at h
      obtain ⟨rfl, rfl⟩ := h
      simp [← hrest]
    · simpa using ih h

/-- Nothing is lost in a cut at the first place. -/
theorem append_of_cutFirst? {sep cs before behind : List Char}
    (h : cutFirst? sep cs = some (before, behind)) : before ++ sep ++ behind = cs := by
  simpa using append_of_cutBehind? h

end NameCarry.Text
