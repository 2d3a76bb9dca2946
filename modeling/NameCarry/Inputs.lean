/-!
# The five inputs

A transfer reads five texts. The same five places hold the paths that the texts are read from, what
is found there, and the words by which they are called.
-/

namespace NameCarry

/-- One value for each input of a transfer. -/
structure Inputs (α : Type) where
  /-- For the mapping of the old build. -/
  oldMapping : α
  /-- For the class links of the old build. -/
  classLinks : α
  /-- For the member links of the old build. -/
  memberLinks : α
  /-- For the exclusion list of the old build. -/
  exclusions : α
  /-- For the mapping of the new build. -/
  newMapping : α
  deriving DecidableEq, Repr

namespace Inputs

variable {α β : Type}

/-- The values, in the order in which the inputs are checked. -/
def toList (inputs : Inputs α) : List α :=
  [inputs.oldMapping, inputs.classLinks, inputs.memberLinks, inputs.exclusions, inputs.newMapping]

/-- Takes each value through `f`, in order. -/
def mapM {m : Type → Type} [Monad m] (f : α → m β) (inputs : Inputs α) : m (Inputs β) := do
  return {
    oldMapping := ← f inputs.oldMapping
    classLinks := ← f inputs.classLinks
    memberLinks := ← f inputs.memberLinks
    exclusions := ← f inputs.exclusions
    newMapping := ← f inputs.newMapping }

end Inputs

end NameCarry
