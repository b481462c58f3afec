/-!
# Paths

A path is a row of names. Empty names and single points say nothing and are left out; two points
lead to the folder above.
-/

namespace ShellVet

/-- The way to a file. -/
structure FilePath where
  absolute : Bool
  names : List String
  deriving DecidableEq, Repr

namespace FilePath

/-- Reads a path. -/
def ofString (text : String) : FilePath :=
  let names := (text.toList.splitOn '/').map String.ofList
  ⟨text.startsWith "/", names.filter fun name => !name.isEmpty && name != "."⟩

/-- Writes a path. -/
def toString (path : FilePath) : String :=
  let names := "/".intercalate path.names
  if path.absolute then "/" ++ names else if names.isEmpty then "." else names

/-- The last name of a path; empty if there is none. -/
def name (path : FilePath) : String := path.names.getLast?.getD ""

/-- The path of the folder that holds the file. -/
def parent (path : FilePath) : FilePath := { path with names := path.names.dropLast }

/-- The path of a file in a folder. -/
def child (path : FilePath) (name : String) : FilePath :=
  { path with names := path.names ++ [name] }

end FilePath

end ShellVet
