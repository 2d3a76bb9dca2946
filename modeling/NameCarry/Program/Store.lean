/-!
# Stores

A store is what a program finds on a disk: files with their bytes, directories, and the devices of
the system, which keep nothing. A path leads from name to name, and starts at the root if it starts
with a slash, else at the working directory; every step goes out from a directory. A path is of
limited length, and so is each of its names: one that is too long leads nowhere.

To write a text, its place is opened first. That fails if the path leads nowhere or to a directory.
Then the place is filled, which only a device can refuse.
-/

namespace NameCarry

/-- What a reader finds at a path. -/
inductive Content where
  /-- Nothing. -/
  | missing
  /-- A directory. -/
  | directory
  /-- A file that is no text. -/
  | undecodable
  /-- A text. -/
  | text (text : String)
  deriving DecidableEq, Repr

namespace Content

/-- What the bytes of a file hold. A file is a text if it is valid UTF-8. -/
def ofBytes (bytes : ByteArray) : Content :=
  match String.fromUTF8? bytes with
  | some content => text content
  | none => undecodable

/-- The text, if there is one. -/
def text? : Content → Option String
  | text content => some content
  | _ => none

/-- Whether there is a file. -/
def isFile : Content → Bool
  | missing | directory => false
  | undecodable | text _ => true

end Content

/-- A file of the system that keeps nothing of what is written to it. -/
inductive Device where
  /-- Takes everything. There is nothing in it. -/
  | null
  /-- Takes everything. There is no end to what is in it, and it is no text. -/
  | endless
  /-- Has no room for anything. There is no end to what is in it, and it is no text. -/
  | full
  /-- Passes everything on to somebody else. There is nothing to read in it. -/
  | stream
  /-- Shows everything where messages are shown. There is nothing to read in it. -/
  | console
  deriving DecidableEq, Repr

namespace Device

/-- What a reader finds in a device. -/
def content : Device → Content
  | null | stream | console => .text ""
  | endless | full => .undecodable

/-- Whether a device takes a text. Each one takes the empty text. -/
def takes (device : Device) (text : String) : Bool :=
  text.isEmpty || device != full

end Device

/-- What lies in one place of a store. -/
inductive Node where
  /-- A file. -/
  | file (bytes : ByteArray)
  /-- A directory. -/
  | directory
  /-- A device. -/
  | device (device : Device)

/-- What a reader finds in a node. -/
def Node.content : Node → Content
  | .file bytes => .ofBytes bytes
  | .directory => .directory
  | .device d => d.content

/-- The names on the way from the root to a place. -/
abbrev Location :=
  List String

/-- The places above a place, without the root. -/
def Location.above (location : Location) : List Location :=
  ((List.range location.length).drop 1).map location.take

/-- Files, directories and devices, and the place in which a program works. -/
structure Store where
  /-- Where paths start that do not start at the root. -/
  workingDirectory : Location := []
  /-- What lies where. A place that occurs more than once holds what is entered first. -/
  entries : List (Location × Node) := []
  /-- The texts that were written to the console, in order. -/
  console : List String := []

namespace Store

/-- The most bytes of a name on a path. -/
def maxNameSize : Nat := 255

/-- The most bytes of a path. -/
def maxPathSize : Nat := 4095

/-- The devices, by their names in the directory of the devices. -/
def devices : List (String × Device) :=
  [("null", .null), ("zero", .endless), ("random", .endless), ("urandom", .endless),
    ("full", .full), ("stdin", .stream), ("stdout", .stream), ("stderr", .console)]

/-- The places that are there before any program works: the devices, and a directory for what need
not last. -/
def standardEntries : List (Location × Node) :=
  (["tmp"], .directory) :: (["dev"], .directory) ::
    devices.map fun (name, device) => (["dev", name], .device device)

/-- The store with some nodes under the working directory and the directories above them, beside
the standard places. -/
def ofEntries (workingDirectory : Location) (entries : List (Location × Node)) : Store :=
  let entries := entries.map fun (location, node) => (workingDirectory ++ location, node)
  let above := (workingDirectory :: workingDirectory.above) ++
    entries.flatMap fun (location, _) => Location.above location
  { workingDirectory
    entries := entries ++ above.map (·, .directory) ++ standardEntries }

/-- What lies in a place. -/
def node? (store : Store) (location : Location) : Option Node :=
  if location.isEmpty then some .directory else store.entries.lookup location

/-- Whether a place is a directory. -/
def isDirectory (store : Store) (location : Location) : Bool :=
  match store.node? location with
  | some .directory => true
  | _ => false

/-- Goes from a place along the names of a path. Above the root is the root. -/
def walk (store : Store) (start : Location) : List String → Option Location
  | [] => some start
  | name :: rest =>
    if !store.isDirectory start || name.utf8ByteSize > maxNameSize then none
    else if name.isEmpty || name == "." then store.walk start rest
    else if name == ".." then store.walk start.dropLast rest
    else store.walk (start ++ [name]) rest

/-- The place that a path leads to. There need not be anything in it. -/
def locate? (store : Store) (path : String) : Option Location :=
  if path.isEmpty || path.utf8ByteSize > maxPathSize then none
  else
    let start := if path.toList.head? == some '/' then [] else store.workingDirectory
    store.walk start ((path.toList.splitOnP (· == '/')).map String.ofList)

/-- What a reader finds at a path. -/
def content (store : Store) (path : String) : Content :=
  (((store.locate? path).bind store.node?).map Node.content).getD .missing

/-- Opens the place that a path leads to for a text, unless it is a directory. -/
def open? (store : Store) (path : String) : Option Location :=
  (store.locate? path).filter (!store.isDirectory ·)

/-- The store with a text in a place, instead of what lay there. -/
def put (store : Store) (location : Location) (text : String) : Store :=
  { store with
    entries := (location, .file text.toUTF8) :: store.entries.filter (·.1 != location) }

/-- The store behind a device that took a text. Only the console shows it. -/
def pass (store : Store) (device : Device) (text : String) : Store :=
  if device == .console then { store with console := store.console ++ [text] } else store

/-- Fills a place that is opened with a text, unless it is a device that does not take the text. -/
def fill? (store : Store) (location : Location) (text : String) : Option Store :=
  match store.node? location with
  | some (.device device) => if device.takes text then some (store.pass device text) else none
  | _ => some (store.put location text)

end Store

end NameCarry
