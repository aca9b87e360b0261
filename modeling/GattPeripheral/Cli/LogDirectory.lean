import GattPeripheral.ObjectPath

/-!
Where the log goes.

The log is a file in a directory of its own, which is created together with everything missing on the
way to it. A path is followed name by name through the directory tree. It leads nowhere if a file is
in the way, if nothing can be created where something is missing, or if it is too long.
-/

namespace GattPeripheral.Cli

/-- The names on the way to a place, the root's first. A way that begins with a dot begins where
the program runs. -/
abbrev Place := List String

namespace Place

/-- The place that one more name leads to. What is above the place where the program runs is not
known, so the way there goes on. -/
def step (here : Place) (name : String) : Place :=
  if name = "" ∨ name = "." then here
  else if name = ".." ∧ here.getLast? ≠ some "." ∧ here.getLast? ≠ some ".." then here.dropLast
  else here ++ [name]

def origin (path : String) : Place := if path.toList.head? = some '/' then [] else ["."]

def names (path : String) : List String :=
  (ObjectPath.splitSlashes path.toList).map String.ofList

def ofPath (path : String) : Place := (names path).foldl step (origin path)

def isWithin (place outer : Place) : Bool := outer.isPrefixOf place

end Place

/-- What is known of the directory tree beforehand. Elsewhere directories can be created. -/
structure Layout where
  files : List Place
  /-- Names that stand for another place. -/
  links : List (Place × Place)
  closed : List Place
  closedDirectories : List Place

namespace Layout

/-- Directories can be created everywhere. -/
def clear : Layout where
  files := []
  links := []
  closed := []
  closedDirectories := []

def isClosed (l : Layout) (place : Place) : Bool := l.closed.any place.isWithin

/-- Whether there is a directory at a place, or one can be created there. -/
def isDirectory (l : Layout) (place : Place) : Bool :=
  !l.files.contains place && (!l.isClosed place || l.closedDirectories.contains place)

/-- A name is not too long and can be passed on. -/
def isName (name : String) : Bool := name.utf8ByteSize ≤ 255 && !name.toList.contains '\x00'

/-- Goes from a directory to the one that a name stands for. -/
def enter? (l : Layout) (here : Place) (name : String) : Option Place :=
  let next := here.step name
  let next := (l.links.lookup next).getD next
  if isName name && l.isDirectory next then some next else none

def follow? (l : Layout) (path : String) : Option Place :=
  (Place.names path).foldlM l.enter? (Place.origin path)

/-- The log's own path: its name is fixed up to a date and comes behind a slash. -/
def logPath (directory : String) : String :=
  let slash := if directory.isEmpty || directory.toList.getLast? = some '/' then "" else "/"
  directory ++ slash ++ "gattkit.log.0000-00-00"

/-- A path takes at most 4095 octets. -/
def isPath (path : String) : Bool := path.utf8ByteSize < 4096

def logPlace? (l : Layout) (directory : String) : Option Place := do
  let place ← l.follow? directory
  if isPath (logPath directory) && !l.isClosed place then some place else none

end Layout
end GattPeripheral.Cli
