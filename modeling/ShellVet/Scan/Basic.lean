import ShellVet.Document.Commands
import ShellVet.Scan.Advice

/-!
# Results of scans

A result holds the findings of a batch with the level they were found under. `toJson` writes it as
the report that other programs read.
-/

namespace ShellVet

/-- The result of scanning a batch of commands. -/
structure Scan where
  level : Level
  findings : Findings
  deriving DecidableEq, Repr

namespace Scan

/-- Scans commands. -/
def ofCommands (level : Level) (commands : List String) : Scan :=
  ⟨level, .ofCommands level commands⟩

/-- The texts among the entries of a batch. -/
def textsOf (entries : List Json) : List String :=
  entries.filterMap fun
    | .string text => some text
    | _ => none

/-- Scans the texts among the entries of a batch. -/
def ofEntries (level : Level) (entries : List Json) : Scan :=
  ofCommands level (textsOf entries)

/-- Scans the commands of a document; none if one of them holds a half of a surrogate pair, which is
not followed. -/
def ofDocument (level : Level) (document : Document) : Option Scan :=
  (document.commands.mapM Coded.string?).map (ofCommands level)

/-- The commands of a batch that cannot be read, as often as they occur. -/
def unreadCommands (level : Level) (commands : List String) : List String :=
  (commands.filter Findings.isCommand).filter fun command =>
    level.readsCommands && !(Shell.parse command).isOk

/-- The rating of a scan. -/
def severity (scan : Scan) : Severity := scan.findings.severity

/-- What the scan warns of. -/
def warnings (scan : Scan) : List String := scan.findings.warnings scan.level

/-- What the scan recommends. -/
def recommendations (scan : Scan) : List String := scan.findings.recommendations scan.level

/-- Whether the scan found anything. -/
def shouldWarn (scan : Scan) : Bool := scan.severity != .none

/-- Whether a reader has to agree before going on. -/
def requiresConfirmation (scan : Scan) : Bool := Severity.high.rank ≤ scan.severity.rank

/-- Whether there is nothing to report. -/
def isClean (scan : Scan) : Bool := scan.severity == .none && !scan.findings.unread

/-- The rating, where an unread command counts as a low finding, since it was never validated. -/
def effectiveSeverity (scan : Scan) : Severity :=
  if scan.findings.unread && scan.severity == .none then .low else scan.severity

/-- Texts as an array. -/
def texts (items : List String) : Json := .array (items.map .string)

/-- An invoked command as a JSON object. -/
def invocationJson (invocation : Shell.Invocation) : Json :=
  .object
    [("command", .string invocation.name),
     ("args", texts invocation.arguments),
     ("text", .string invocation.text),
     ("is_piped", .bool invocation.piped),
     ("has_subshell", .bool invocation.nested),
     ("has_redirect", .bool invocation.redirected)]

/-- The result under keys with low lines. -/
def fields (scan : Scan) : Json :=
  let findings := scan.findings
  let signals := findings.signals
  .object
    [("has_dangerous_content", .bool signals.dangerous),
     ("has_suspicious_content", .bool signals.suspicious),
     ("has_obfuscation", .bool signals.obfuscated),
     ("dangerous_commands", texts findings.dangerous),
     ("suspicious_commands", texts findings.suspicious),
     ("obfuscated_commands", texts findings.obfuscated),
     ("obfuscation_techniques", texts findings.techniques),
     ("warnings", texts scan.warnings),
     ("severity", .string scan.severity.name),
     ("parsed_commands", .array (findings.invocations.map invocationJson)),
     ("blocked_commands", texts findings.blocked),
     ("unknown_commands", texts findings.unknown),
     ("security_level", .string scan.level.key),
     ("ast_parsing_failed", .bool findings.unread),
     ("recommendations", texts scan.recommendations)]

/-- The report of a scan. -/
def toJson (scan : Scan) : Json := scan.fields.camelized

end Scan

end ShellVet
