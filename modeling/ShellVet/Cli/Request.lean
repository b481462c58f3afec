import ShellVet.Cli.Arguments
import ShellVet.Report.Format

/-!
# Requests

What a command line asks for. Options for all commands stand before the name of the command, and its
own behind it.
-/

namespace ShellVet.Cli

/-- How commands are to be scanned, and what is to be done with the result. -/
structure ScanOptions where
  level : Option String := none
  json : Bool := false
  quiet : Bool := false
  failOn : Option String := none
  interactive : Bool := false
  deriving DecidableEq, Repr

/-- What is asked for. -/
inductive Request where
  /-- Scan the commands of a document. -/
  | scan (source : String) (options : ScanOptions)
  /-- Scan the given commands. -/
  | check (commands : List String) (options : ScanOptions)
  /-- List the commands of a document. -/
  | extract (source : String)
  | levels
  | showConfig
  | getConfig (key : String)
  | setConfig (key value : String)
  | configPath
  deriving DecidableEq, Repr

/-- A request with the options for all commands. -/
structure Call where
  verbose : Bool
  audience : Report.Audience
  request : Request
  deriving DecidableEq, Repr

/-- Why there is no request: help is asked for, no argument is given, or arguments are wrong. -/
inductive Refusal where
  | help
  | noArguments
  | wrong (error : ArgumentError)
  deriving DecidableEq, Repr

/-- The exit code of a refusal. -/
def Refusal.exitCode : Refusal → Nat
  | .help => 0
  | _ => 2

/-- The options. -/
inductive Label where
  | help
  | verbose
  | agent
  | level
  | json
  | quiet
  | failOn
  | interactive
  deriving DecidableEq, Repr

/-- The option that asks for help. -/
def helpSwitch : Switch Label := { label := .help, names := ["--help"] }

/-- The options for all commands. -/
def globalSwitches : List (Switch Label) :=
  [{ label := .verbose, names := ["--verbose", "-v"] }, { label := .agent, names := ["--agent"] },
   helpSwitch]

/-- The options of checks of given commands. -/
def checkSwitches : List (Switch Label) :=
  [{ label := .level, names := ["--level", "-l"], takesValue := true },
   { label := .json, names := ["--json"] },
   { label := .failOn, names := ["--fail-on"], takesValue := true },
   helpSwitch]

/-- The options of scans of documents. -/
def scanSwitches : List (Switch Label) :=
  checkSwitches ++
    [{ label := .quiet, names := ["--quiet", "-q"] },
     { label := .interactive, names := ["--interactive", "-i"] }]

/-- The scan options among arguments. -/
def scanOptions (arguments : Arguments Label) : ScanOptions where
  level := arguments.value? .level
  json := arguments.has .json
  quiet := arguments.has .quiet
  failOn := arguments.value? .failOn
  interactive := arguments.has .interactive

/-- Reads the arguments of a command with its options. Help goes before missing words. -/
def readOptions (switches : List (Switch Label)) (behindWords : Bool) (arguments : List String) :
    Except Refusal (Arguments Label) :=
  match Arguments.read switches behindWords arguments with
  | .error error => .error (.wrong error)
  | .ok read => if read.has .help then .error .help else .ok read

/-- No words. -/
def noWord {α : Type} (value : α) : List String → Except Refusal α
  | [] => .ok value
  | word :: _ => .error (.wrong (.unwantedWord word))

/-- Exactly one word. -/
def oneWord {α : Type} (make : String → α) : List String → Except Refusal α
  | [] => .error (.wrong .missingWord)
  | word :: rest => noWord (make word) rest

/-- Exactly two words. -/
def twoWords {α : Type} (make : String → String → α) : List String → Except Refusal α
  | [] => .error (.wrong .missingWord)
  | word :: rest => oneWord (make word) rest

/-- At least one word. -/
def someWords {α : Type} (make : List String → α) : List String → Except Refusal α
  | [] => .error (.wrong .missingWord)
  | words => .ok (make words)

/-- The command named by the first word, which the given function reads with the words behind it. -/
def readCommand {α : Type} (commands : String → List String → Option (Except Refusal α)) :
    List String → Except Refusal α
  | [] => .error (.wrong .missingCommand)
  | name :: rest => (commands name rest).getD (.error (.wrong (.unknownCommand name)))

/-- A request about the saved preference. -/
def readConfigCommand (name : String) (arguments : List String) :
    Option (Except Refusal Request) :=
  let words (make : List String → Except Refusal Request) : Except Refusal Request := do
    make (← readOptions [helpSwitch] true arguments).words
  match name with
  | "show" => some (words (noWord .showConfig))
  | "get" => some (words (oneWord .getConfig))
  | "set" => some (words (twoWords .setConfig))
  | "path" => some (words (noWord .configPath))
  | _ => none

/-- A request. -/
def readMainCommand (name : String) (arguments : List String) : Option (Except Refusal Request) :=
  match name with
  | "scan" => some do
    let read ← readOptions scanSwitches true arguments
    oneWord (fun source => .scan source (scanOptions read)) read.words
  | "check" => some do
    let read ← readOptions checkSwitches true arguments
    someWords (fun commands => .check commands (scanOptions read)) read.words
  | "extract" => some do
    oneWord .extract (← readOptions [helpSwitch] true arguments).words
  | "levels" => some do
    noWord .levels (← readOptions [helpSwitch] true arguments).words
  | "config" => some do
    if arguments.isEmpty then throw .noArguments
    readCommand readConfigCommand (← readOptions [helpSwitch] false arguments).words
  | _ => none

/-- The call that arguments make. -/
def Call.ofArguments (arguments : List String) : Except Refusal Call := do
  if arguments.isEmpty then throw .noArguments
  let read ← readOptions globalSwitches false arguments
  let request ← readCommand readMainCommand read.words
  return ⟨read.has .verbose, if read.has .agent then .agent else .human, request⟩

end ShellVet.Cli
