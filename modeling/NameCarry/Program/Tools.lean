import NameCarry.Journal.Event
import NameCarry.Program.Options
import NameCarry.Summary

/-!
# Tools

The program leaves three things to others: to make out its options on a command line, to choose the
messages that are shown, and to write a JSON value down. What is proved of a run is proved for any
such tools.
-/

namespace NameCarry

/-- What becomes of a command line. -/
inductive Parsed where
  /-- The options on it are found. -/
  | matches (found : Matches)
  /-- The program ends here, with a status: it is asked for help or for its version, or the command
  line cannot be understood. -/
  | exit (status : Nat)

/-- What the program leaves to others. The words of a command line are values of `α`. -/
structure Tools (α : Type) where
  /-- Finds the declared options on a command line. -/
  parse : List Parameter → List α → Parsed
  /-- Whether an event is shown, by the level that the switches ask for and a filter that is set
  outside of the command line. -/
  shows : Level → Option String → Event → Bool
  /-- Writes a JSON value over several lines. -/
  pretty : Json → String

end NameCarry
