import ShellVet.Files.Path
import ShellVet.Text.Utf8

/-!
# Files

The files that a program sees, as a value: each place in the tree of folders holds a folder or a
file with its bytes. Reading and writing follow a path from the working folder or from the root.
-/

namespace ShellVet

/-- What is at a place. -/
inductive FileEntry where
  | folder
  | file (bytes : List UInt8)
  deriving DecidableEq, Repr

/-- Why a file cannot be reached. -/
inductive FileError where
  | missing
  | exists
  | isFolder
  | notFolder
  | nameTooLong
  deriving DecidableEq, Repr

/-- The number of an error. -/
def FileError.number : FileError → Nat
  | .missing => 2
  | .exists => 17
  | .notFolder => 20
  | .isFolder => 21
  | .nameTooLong => 36

/-- What an error says. -/
def FileError.reason : FileError → String
  | .missing => "No such file or directory"
  | .exists => "File exists"
  | .notFolder => "Not a directory"
  | .isFolder => "Is a directory"
  | .nameTooLong => "File name too long"

/-- The wording of an error at a path. -/
def FileError.message (error : FileError) (path : FilePath) : String :=
  s!"[Errno {error.number}] {error.reason}: {Text.quoted path.toString}"

/-- All files, by the paths that lead to them without detours. -/
structure Files where
  entries : List (FilePath × FileEntry) := []
  deriving DecidableEq, Repr

namespace Files

/-- What is at a place without detours. The folders that paths start from are always there. -/
def at? (files : Files) (place : FilePath) : Option FileEntry :=
  if place.names.isEmpty then some .folder else files.entries.lookup place

/-- Sets what is at a place. -/
def setAt (files : Files) (place : FilePath) (entry : FileEntry) : Files :=
  ⟨(files.entries.filter fun old => old.1 != place) ++ [(place, entry)]⟩

/-- Longest name in bytes. -/
def longestName : Nat := 255

/-- Longest path in bytes. -/
def longestPath : Nat := 4095

/-- Goes along names from a place. Only folders lead on. -/
def walk (files : Files) (place : FilePath) : List String → Except FileError FilePath
  | [] => .ok place
  | name :: rest =>
    match files.at? place with
    | none => .error .missing
    | some (.file _) => .error .notFolder
    | some .folder =>
      if name == ".." then files.walk place.parent rest
      else if name.utf8ByteSize > longestName then .error .nameTooLong
      else files.walk (place.child name) rest

/-- The place that a path leads to, which may be empty. -/
def place (files : Files) (path : FilePath) : Except FileError FilePath :=
  if path.toString.utf8ByteSize > longestPath then .error .nameTooLong
  else if path.toString.contains '\x00' then .error .missing
  else files.walk { path with names := [] } path.names

/-- What a path leads to. -/
def find (files : Files) (path : FilePath) : Except FileError FileEntry := do
  match files.at? (← files.place path) with
  | some entry => return entry
  | none => throw .missing

/-- Whether a path leads somewhere. -/
def has (files : Files) (path : FilePath) : Bool :=
  (files.find path).toOption.isSome

/-- Whether a path leads to a folder. -/
def hasFolder (files : Files) (path : FilePath) : Bool :=
  (files.find path).toOption == some .folder

/-- The bytes of a file. -/
def read (files : Files) (path : FilePath) : Except FileError (List UInt8) := do
  match ← files.find path with
  | .file bytes => return bytes
  | .folder => throw .isFolder

/-- Writes a file whose folder exists. -/
def write (files : Files) (path : FilePath) (bytes : List UInt8) : Except FileError Files := do
  let place ← files.place path
  match files.at? place, files.at? place.parent with
  | some .folder, _ => throw .isFolder
  | _, some .folder => return files.setAt place (.file bytes)
  | _, some (.file _) => throw .notFolder
  | _, none => throw .missing

/-- Makes a folder whose parent exists. -/
def makeFolder (files : Files) (path : FilePath) : Except FileError Files := do
  let place ← files.place path
  match files.at? place, files.at? place.parent with
  | some _, _ => throw .exists
  | none, some .folder => return files.setAt place .folder
  | none, some (.file _) => throw .notFolder
  | none, none => throw .missing

/-- Makes the folders along names below a path, as far as they are missing. -/
def makeFoldersAlong (files : Files) (path : FilePath) : List String → Except FileError Files
  | [] => .ok files
  | name :: rest =>
    let next := path.child name
    if files.hasFolder next then files.makeFoldersAlong next rest
    else
      match files.makeFolder next with
      | .ok made => made.makeFoldersAlong next rest
      | .error error => .error (if rest.isEmpty then error else .notFolder)

/-- Makes a folder and those above it, as far as they are missing. -/
def makeFolders (files : Files) (path : FilePath) : Except FileError Files :=
  files.makeFoldersAlong { path with names := [] } path.names

/-- Removes a file. -/
def remove (files : Files) (path : FilePath) : Except FileError Files := do
  let place ← files.place path
  match files.at? place with
  | some (.file _) => return ⟨files.entries.filter fun old => old.1 != place⟩
  | some .folder => throw .isFolder
  | none => throw .missing

/-- The bytes of a text. -/
def bytesOf (text : String) : List UInt8 := text.toUTF8.toList

end Files

end ShellVet
