/-!
# Levels of detail

Every message has a level. A run shows the messages that are at least as severe as the level it was
started with, or none at all.
-/

namespace NameCarry

/-- How important a message is, from the most severe to the most detailed. -/
inductive Level where
  | error
  | warn
  | info
  | debug
  | trace
  deriving DecidableEq, Repr

namespace Level

/-- All levels, the most severe first. -/
def all : List Level := [error, warn, info, debug, trace]

/-- The name under which a level is chosen. -/
def name : Level → String
  | error => "error"
  | warn => "warn"
  | info => "info"
  | debug => "debug"
  | trace => "trace"

/-- The name that is shown before a message. -/
def label (level : Level) : String :=
  level.name.toUpper

/-- The place of the level, counted from the most severe. -/
def rank : Level → Nat
  | error => 0
  | warn => 1
  | info => 2
  | debug => 3
  | trace => 4

end Level

/-- The messages that a run shows: those up to a level, or none. -/
inductive Threshold where
  /-- No message is shown. -/
  | off
  /-- Messages of the given level and of the more severe ones are shown. -/
  | upTo (level : Level)
  deriving DecidableEq, Repr

namespace Threshold

/-- Whether messages of the given level are shown. -/
def shows (threshold : Threshold) (level : Level) : Bool :=
  match threshold with
  | off => false
  | upTo limit => level.rank ≤ limit.rank

/-- The threshold of the given name, in lower or upper case. -/
def ofName? (name : String) : Option Threshold :=
  if name.toLower == "off" then some off
  else (Level.all.find? (·.name == name.toLower)).map upTo

end Threshold

end NameCarry
