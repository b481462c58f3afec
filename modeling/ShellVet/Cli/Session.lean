import ShellVet.Files.Basic
import ShellVet.Config.Store
import ShellVet.Report.Format
import ShellVet.Source.Load

/-!
# Sessions

A session is what a run sees and changes: the files, what was written, and the lines that are still
to be typed. A run works on the session until it stops; what it has done by then remains.
-/

namespace ShellVet.Cli

/-- What a run is given. -/
structure Setting where
  /-- The level that the environment asks for. -/
  level : Option String := none
  /-- Where the preference is saved. -/
  configPath : FilePath
  /-- The present time. -/
  now : String
  /-- The answer to a request for an address. -/
  fetch : String → Source.Answer
  stack : Stack
  console : Terminal.Markup.Console

/-- What a run sees and changes. -/
structure Session where
  files : Files
  out : String := ""
  err : String := ""
  /-- The lines still to be typed. -/
  input : List String := []

/-- What a run breaks off at. -/
inductive Failure where
  | markup (fault : Terminal.Markup.Fault)
  | load (error : Source.LoadError)
  | file (error : FileError)
  /-- The stack is used up. -/
  | overflow
  /-- A half of a surrogate pair was to be printed. -/
  | unprintable
  /-- Commands that hold halves of surrogate pairs were to be scanned, which is not followed. -/
  | halves
  deriving Repr

/-- Why a run stops early. -/
inductive Stop where
  | exit (code : Nat)
  | failed (failure : Failure)
  deriving Repr

/-- A part of a run. -/
abbrev Run := ExceptT Stop (StateM Session)

namespace Run

/-- Stops with an exit code. -/
def exit {α : Type} (code : Nat) : Run α := throw (.exit code)

/-- Breaks off. -/
def fail {α : Type} (failure : Failure) : Run α := throw (.failed failure)

/-- Writes a text to the output. -/
def write (text : String) : Run Unit :=
  modify fun session => { session with out := session.out ++ text }

/-- Writes a text to the error output. -/
def writeError (text : String) : Run Unit :=
  modify fun session => { session with err := session.err ++ text }

/-- Writes lines to the error output. -/
def notify (lines : List String) : Run Unit :=
  writeError (String.join (lines.map (· ++ "\n")))

/-- What is written for a line of a report. -/
def sent (setting : Setting) (audience : Report.Audience) (line : String) : Run String :=
  match audience.sent setting.console line with
  | .ok text => pure text
  | .error fault => fail (.markup fault)

/-- Writes a line of a report. -/
def say (setting : Setting) (audience : Report.Audience) (line : String) : Run Unit := do
  write (← sent setting audience line)

/-- Writes the lines of a report. -/
def sayAll (setting : Setting) (audience : Report.Audience) : List String → Run Unit
  | [] => pure ()
  | line :: lines => do
    say setting audience line
    sayAll setting audience lines

/-- Writes an error message and stops with the exit code for wrong input. -/
def refuse {α : Type} (setting : Setting) (audience : Report.Audience) (message : String) :
    Run α := do
  writeError (← sent setting audience (audience.error message))
  exit 2

/-- The saved configuration. Tells what is wrong with it. -/
def savedConfig (setting : Setting) : Run Config := do
  let (notices, loaded) :=
    Config.load setting.stack (← get).files setting.configPath setting.now
  notify notices
  match loaded with
  | .ok config => return config
  | .error .overflow => fail .overflow

end Run

/-- How a run ended. -/
inductive Ending where
  | exit (code : Nat)
  | failed (failure : Failure)
  deriving Repr

/-- The ending of a finished run. -/
def Ending.ofResult : Except Stop Unit → Ending
  | .ok () => .exit 0
  | .error (.exit code) => .exit code
  | .error (.failed failure) => .failed failure

end ShellVet.Cli
