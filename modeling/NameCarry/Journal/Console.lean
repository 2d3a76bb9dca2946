/-!
# The console

Messages are shown on the console, each behind its level and with a line end behind it. Texts may be
written there too, between the messages. What can be told from the console afterwards are the
messages that start a line, each up to the end of that line: the rest of a message that goes over
several lines looks like any other text, and so does a message behind a text that leaves its line
open.
-/

namespace NameCarry

/-- A piece of what is shown on the console. -/
inductive Shown where
  /-- A message with its level. -/
  | message (level text : String)
  /-- A text that is no message. -/
  | text (text : String)
  deriving DecidableEq, Repr

namespace Shown

/-- What stands before the first line end of a text. -/
def firstLine (text : String) : String :=
  String.ofList (text.toList.takeWhile (· != '\n'))

/-- Whether a line is open behind a text, if one is or is not open before it. -/
def leavesOpen (wasOpen : Bool) (text : String) : Bool :=
  match text.toList.getLast? with
  | none => wasOpen
  | some c => c != '\n'

/-- The messages that can be told from what is shown, if a line is or is not open before it. -/
def messagesFrom (isOpen : Bool) : List Shown → List (String × String)
  | [] => []
  | .message level body :: rest =>
    if isOpen then messagesFrom false rest else (level, firstLine body) :: messagesFrom false rest
  | .text body :: rest => messagesFrom (leavesOpen isOpen body) rest

/-- The messages that can be told from the console, as levels and texts. -/
def messages (shown : List Shown) : List (String × String) :=
  messagesFrom false shown

end Shown

end NameCarry
