import ShellVet.Cli.Confirm
import ShellVet.Cli.Log
import ShellVet.Cli.Request
import ShellVet.Report.Lines

/-!
# Runs

What the program does for each request. A run takes a setting and a session and gives the session
after it with how it ended; it reads and writes nothing else.
-/

namespace ShellVet.Cli

open Report

namespace Run

/-- The level to scan under: the one asked for, else that of the environment, else the saved one.
Empty names do not count. -/
def levelFor (setting : Setting) (audience : Audience) (asked : Option String) : Run Level := do
  let named (name : Option String) := name.filter fun key => !key.isEmpty
  match named asked <|> named setting.level with
  | none => return (← savedConfig setting).level
  | some key =>
    match Level.ofKey? key with
    | some level => return level
    | none => refuse setting audience (audience.text (Level.unknownMessage (.string key)))

/-- The threshold asked for. -/
def thresholdFor (setting : Setting) (audience : Audience) (asked : Option String) :
    Run (Option Threshold) := do
  match asked with
  | none => return none
  | some name =>
    match Threshold.ofName? name with
    | some threshold => return some threshold
    | none =>
      let names := ", ".intercalate (Threshold.all.map Threshold.name)
      let shown := audience.text name
      refuse setting audience s!"Invalid --fail-on value: {shown} (expected one of: {names})"

/-- Loads a document, unless it holds itself. -/
def load (setting : Setting) (audience : Audience) (source : String) : Run (Option Document) := do
  match (Source.load ⟨(← get).files, setting.fetch, setting.stack⟩ source).2 with
  | .ok document => return document
  | .error error =>
    if error.isReported then refuse setting audience (audience.text error.message)
    else fail (.load error)

/-- The commands of a loaded document. The way through one that holds itself never ends. -/
def commandsOf (setting : Setting) : Option Document → Run (List CodeText)
  | none => fail .overflow
  | some document =>
    if setting.stack.walking < document.depth then fail .overflow else return document.commands

/-- Commands as texts of characters. -/
def plain (commands : List CodeText) : Run (List String) :=
  match commands.mapM Coded.string? with
  | some commands => return commands
  | none => fail .halves

/-- The question that a grave scan leads to. -/
def question : String := "This configuration contains high-risk commands. Proceed anyway?"

/-- Shows the result of a scan. -/
def present (setting : Setting) (audience : Audience) (options : ScanOptions)
    (source : Option String) (total : Nat) (scan : Scan) : Run Unit :=
  if options.json then write (scan.toJson.lines ++ "\n")
  else if options.quiet && scan.isClean then pure ()
  else sayAll setting audience (ofScan audience source total scan)

/-- Decides how a scan ends. -/
def conclude (setting : Setting) (options : ScanOptions) (asked : Option Threshold) (scan : Scan) :
    Run Unit := do
  if options.interactive && scan.requiresConfirmation then
    if !(← confirm question) then exit 1
  else
    let threshold ← match asked with
      | some threshold => pure threshold
      | none => do pure (← savedConfig setting).threshold
    if threshold.isReachedBy scan.effectiveSeverity then exit 1

/-- Scans commands, shows the result, and ends by its severity. -/
def screen (setting : Setting) (verbose : Bool) (audience : Audience) (options : ScanOptions)
    (asked : Option Threshold) (level : Level) (source : Option String) (commands : List String) :
    Run Unit := do
  notify (log verbose level commands)
  let scan := Scan.ofCommands level commands
  present setting audience options source commands.length scan
  conclude setting options asked scan

/-- Scans a document. -/
def scan (setting : Setting) (call : Call) (source : String) (options : ScanOptions) :
    Run Unit := do
  let level ← levelFor setting call.audience options.level
  let threshold ← thresholdFor setting call.audience options.failOn
  let document ← load setting call.audience source
  let commands ← plain (← commandsOf setting document)
  screen setting call.verbose call.audience options threshold level (some source) commands

/-- Scans given commands. -/
def check (setting : Setting) (call : Call) (commands : List String) (options : ScanOptions) :
    Run Unit := do
  let level ← levelFor setting call.audience options.level
  let threshold ← thresholdFor setting call.audience options.failOn
  screen setting call.verbose call.audience options threshold level none commands

/-- Lists the commands of a document. -/
def extract (setting : Setting) (audience : Audience) (source : String) : Run Unit := do
  let commands ← commandsOf setting (← load setting audience source)
  write ((Json.array (commands.map .string)).lines ++ "\n")

/-- Shows the saved configuration. -/
def showConfig (setting : Setting) : Run Unit := do
  let config ← savedConfig setting
  match config.copied setting.stack with
  | .ok members => write ((Json.object members).lines ++ "\n")
  | .error _ => fail .overflow

/-- The value of a key in the saved configuration. -/
def configValue (setting : Setting) (key : String) : Run (Json CodeText) := do
  let (notices, value) :=
    Config.get setting.stack (← get).files setting.configPath setting.now key
  notify notices
  match value with
  | .ok value => return value
  | .error .overflow => fail .overflow

/-- Shows the value of a key. -/
def getConfig (setting : Setting) (key : String) : Run Unit := do
  match ← configValue setting key with
  | .null =>
    notify [s!"Key not found: {key}"]
    exit 1
  | .object members => write ((Json.object members).lines ++ "\n")
  | .string text =>
    match Coded.string? text with
    | some text => write (text ++ "\n")
    | none => fail .unprintable
  | value => write (value.shown ++ "\n")

/-- The value that a text stands for: that of the JSON document it is, or else the text. -/
def valueOf (stack : Stack) (text : String) : Except Overflow (Json CodeText) :=
  match Json.read stack.reading text.toList with
  | .ok value => .ok value
  | .error .tooDeep => .error .overflow
  | .error _ => .ok (.string text)

/-- What a failed change of the preference ends with. -/
def refuseChange (setting : Setting) (error : Config.ChangeError) : Run Unit := do
  match error with
  | .file error => fail (.file error)
  | .unfit (.limit .depth) => fail .overflow
  | error =>
    notify [s!"Error: {error.message setting.configPath}"]
    exit 2

/-- Sets the value of a key and shows what is saved. -/
def setConfig (setting : Setting) (audience : Audience) (key value : String) : Run Unit := do
  match valueOf setting.stack value with
  | .error .overflow => fail .overflow
  | .ok value =>
    let change :=
      Config.set setting.stack (← get).files setting.configPath setting.now key value
    notify change.notices
    modify fun session => { session with files := change.files }
    match change.result with
    | .error error => refuseChange setting error
    | .ok _ =>
      let saved ← configValue setting key
      write (← sent setting .human (audience.success s!"Set {key} = {saved.line}"))

/-- Does what is asked for. -/
def perform (setting : Setting) (call : Call) : Run Unit :=
  match call.request with
  | .scan source options => scan setting call source options
  | .check commands options => check setting call commands options
  | .extract source => extract setting call.audience source
  | .levels => sayAll setting call.audience (levels call.audience)
  | .showConfig => showConfig setting
  | .getConfig key => getConfig setting key
  | .setConfig key value => setConfig setting call.audience key value
  | .configPath => write (setting.configPath.toString ++ "\n")

end Run

/-- Runs a call in a session. -/
def run (setting : Setting) (call : Call) (session : Session) : Ending × Session :=
  let (result, session) := (Run.perform setting call).run session
  (.ofResult result, session)

/-- The lines of a typed text. -/
def inputLines (text : String) : List String :=
  match (String.ofList (Text.joinLineEnds text.toList)).splitOn "\n" with
  | [] => []
  | lines => if lines.getLast? == some "" then lines.dropLast else lines

end ShellVet.Cli
