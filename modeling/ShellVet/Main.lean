import ShellVet.Calendar.Text
import ShellVet.Cli.Run
import Std.Time.DateTime

/-!
# The command line

Reads what a run needs, runs it, and writes what it changed. There is no access to the web: a
request for an address is answered by saying so. Of the arguments that calls in markup can have,
only the empty row is known.
-/

namespace ShellVet.Main

/-- The environment variable that names a level. -/
def levelVariable : String := "PAKKY_SECURITY_LEVEL"

/-- Where the preference is saved below the home folder. -/
def configPath (home : String) : FilePath :=
  FilePath.ofString (home ++ "/.pakky/config.json")

/-- The present time. -/
def now : IO String := do
  let time := (← Std.Time.Timestamp.now).val
  let nanoseconds := time.second.val * 1000000000 + time.nano.val
  return (Moment.ofMicroseconds (nanoseconds / 1000).toNat).text

/-- What is at a path. -/
def entryAt (path : FilePath) : IO (Option FileEntry) := do
  try
    let place ← IO.FS.realPath path.toString
    if ← place.isDir then return some .folder
    return some (.file (← IO.FS.readBinFile place).toList)
  catch _ => return none

/-- The files among paths, with the folders that lead to them. -/
def filesAt (paths : List FilePath) : IO Files := do
  let mut files : Files := {}
  for path in paths do
    let mut place : FilePath := { path with names := [] }
    for name in path.names do
      place := place.child name
      if let some entry ← entryAt place then
        files := files.setAt place entry
  return files

/-- Writes a file that a run has changed. -/
def save (before after : Files) (path : FilePath) : IO Unit := do
  match after.read path with
  | .ok bytes =>
    if (before.read path).toOption != some bytes then
      IO.FS.createDirAll path.parent.toString
      IO.FS.writeBinFile path.toString ⟨bytes.toArray⟩
  | .error _ => return ()

/-- The file that a request reads. -/
def Request.source? : Cli.Request → Option FilePath
  | .scan source _ | .extract source => some (FilePath.ofString source)
  | _ => none

/-- Whether a request may ask a question. -/
def Request.asks : Cli.Request → Bool
  | .scan _ options => options.interactive
  | _ => false

/-- How to use the program. -/
def usage : String :=
  "\n".intercalate
    ["Usage: [--verbose] [--agent] COMMAND",
     "",
     "scan SOURCE [-l LEVEL] [--json] [-q] [--fail-on SEVERITY] [-i]",
     "check COMMANDS... [-l LEVEL] [--json] [--fail-on SEVERITY]",
     "extract SOURCE",
     "levels",
     "config show | get KEY | set KEY VALUE | path"]

/-- What is said of a failure. -/
def failureText : Cli.Failure → String
  | .markup (.unopened name) => s!"closing tag [/{name}] matches no open tag"
  | .markup .nothingOpen => "closing tag has nothing to close"
  | .markup (.unreadable parameters) =>
    s!"the arguments {String.ofList parameters} of a call cannot be read"
  | .markup .brokenColor => "a part of a colour is no number"
  | .overflow => "maximum recursion depth exceeded"
  | .unprintable => "a half of a surrogate pair cannot be printed"
  | .halves => "commands that hold halves of surrogate pairs are not followed"
  | .load error => error.message
  | .file error => error.reason

/-- All that is left of an input, behind what was read before. -/
partial def readAll (input : IO.FS.Stream) (before : String) : IO String := do
  let line ← input.getLine
  if line.isEmpty then return before else readAll input (before ++ line)

/-- Runs a call and gives its exit code. -/
def perform (call : Cli.Call) : IO UInt32 := do
  let home := (← IO.getEnv "HOME").getD "."
  let path := configPath home
  let files ← filesAt (path :: (Request.source? call.request).toList)
  let typed ← if Request.asks call.request then readAll (← IO.getStdin) "" else pure ""
  let setting : Cli.Setting :=
    { level := ← IO.getEnv levelVariable
      configPath := path
      now := ← now
      fetch := fun _ => .error "no access to the web"
      stack := .usual
      console := ⟨fun arguments => arguments == ['(', ')']⟩ }
  let (ending, after) := Cli.run setting call { files, input := Cli.inputLines typed }
  save files after.files path
  IO.print after.out
  IO.eprint after.err
  match ending with
  | .exit code => return UInt32.ofNat code
  | .failed failure =>
    IO.eprintln (failureText failure)
    return 1

end ShellVet.Main

/-- The program. -/
def main (arguments : List String) : IO UInt32 := do
  match ShellVet.Cli.Call.ofArguments arguments with
  | .ok call => ShellVet.Main.perform call
  | .error refusal =>
    IO.eprintln ShellVet.Main.usage
    return UInt32.ofNat refusal.exitCode
