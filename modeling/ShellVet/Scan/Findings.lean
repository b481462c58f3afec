import ShellVet.Json.Keys
import ShellVet.Json.Shown
import ShellVet.Obfuscation
import ShellVet.Policy.Level
import ShellVet.Risk
import ShellVet.Shell.Invocation

/-!
# Scanning commands

A scan looks at each command of a batch under one level: it reads the command by the grammar of the
shell and sorts what it invokes into categories, looks for obfuscation, and matches the dangerous
and suspicious signatures. What it finds is kept without repetition, in the order in which it comes
up; nothing is executed.
-/

namespace ShellVet

/-- What a scan has found so far. -/
structure Findings where
  dangerous : List String := []
  suspicious : List String := []
  obfuscated : List String := []
  techniques : List String := []
  invocations : List Shell.Invocation := []
  /-- Names of commands that the level does not allow, unknown ones included. -/
  blocked : List String := []
  /-- Names of commands that belong to no category. -/
  unknown : List String := []
  /-- Whether a command could not be read. -/
  unread : Bool := false
  deriving DecidableEq, Repr

namespace Findings

/-- The list with a value at its end, unless the value is in it. -/
def insert (items : List String) (value : String) : List String :=
  if items.contains value then items else items ++ [value]

/-- The list with several values, each unless it is in it. -/
def insertAll (items values : List String) : List String :=
  values.foldl insert items

/-- Whether a command is shown by its text. Blank texts are passed over. -/
def isCommand (command : String) : Bool :=
  !Text.isBlankText command.toList

/-- The trimmed name of a command that is invoked. -/
def nameOf (invocation : Shell.Invocation) : String :=
  String.ofList (Text.trim invocation.name.toList)

/-- Sorts one invoked command. -/
def sort (level : Level) (findings : Findings) (invocation : Shell.Invocation) : Findings :=
  let name := nameOf invocation
  match Category.ofCommand? name with
  | none =>
    { findings with
      unknown := insert findings.unknown name, blocked := insert findings.blocked name }
  | some category =>
    if level.allows category then findings
    else { findings with blocked := insert findings.blocked name }

/-- Reads a command and sorts what it invokes. -/
def classify (level : Level) (findings : Findings) (command : String) : Findings :=
  if !level.readsCommands then findings
  else match Shell.parse command with
    | .error _ => { findings with unread := true }
    | .ok invocations =>
      invocations.foldl (sort level)
        { findings with invocations := findings.invocations ++ invocations }

/-- Looks for obfuscation. -/
def detect (level : Level) (findings : Findings) (command : String) : Findings :=
  if !level.blocksObfuscation then findings
  else match Obfuscation.detect command with
    | [] => findings
    | techniques =>
      { findings with
        obfuscated := insert findings.obfuscated command,
        techniques := insertAll findings.techniques (techniques.map (·.name)) }

/-- The first word of a command. -/
def firstWord (command : String) : String :=
  String.ofList (Text.firstWord command.toList)

/-- Whether suspicious signatures count. Looser levels trust a command whose first word they
allow. -/
def checksSuspicion (level : Level) (command : String) : Bool :=
  level == Level.default || !Category.allow level.categories (firstWord command) false

/-- Matches the signatures. -/
def screen (level : Level) (findings : Findings) (command : String) : Findings :=
  if Risk.isDangerous command then
    { findings with dangerous := insert findings.dangerous command }
  else if checksSuspicion level command && Risk.isSuspicious command then
    { findings with suspicious := insert findings.suspicious command }
  else findings

/-- Looks at one command. -/
def add (level : Level) (findings : Findings) (command : String) : Findings :=
  screen level (detect level (classify level findings command) command) command

/-- What a batch of commands gives. -/
def ofCommands (level : Level) (commands : List String) : Findings :=
  (commands.filter isCommand).foldl (add level) {}

/-- The signals that the findings give. -/
def signals (findings : Findings) : Severity.Signals where
  dangerous := !findings.dangerous.isEmpty
  obfuscated := !findings.obfuscated.isEmpty
  suspicious := !findings.suspicious.isEmpty
  blocked := !findings.blocked.isEmpty
  unknown := !findings.unknown.isEmpty

/-- The rating of the findings. -/
def severity (findings : Findings) : Severity :=
  .ofSignals findings.signals

end Findings

end ShellVet
