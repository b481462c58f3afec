import ShellVet.Scan.Basic

/-!
# The log of a scan

A scan logs each command that it cannot read, and with more detail asked for also what it found.
-/

namespace ShellVet.Cli

/-- Most characters of a command in the log. -/
def previewLength : Nat := 50

/-- The line about a command that cannot be read. -/
def unreadLine (command : String) : String :=
  "pakky-guard: WARNING pakky_guard.core.shell_parser: AST parsing failed for command: " ++
    String.ofList (command.toList.take previewLength) ++ "..."

/-- The line about the result. -/
def resultLine (scan : Scan) : String :=
  let findings := scan.findings
  s!"pakky-guard: DEBUG pakky_guard.core.scanner: scan ({scan.level.key}): " ++
    s!"severity={scan.severity.name} dangerous={findings.dangerous.length} " ++
    s!"suspicious={findings.suspicious.length} obfuscated={findings.obfuscated.length} " ++
    s!"blocked={findings.blocked.length} unknown={findings.unknown.length}"

/-- The log of a scan of commands. -/
def log (verbose : Bool) (level : Level) (commands : List String) : List String :=
  (Scan.unreadCommands level commands).map unreadLine ++
    if verbose then [resultLine (Scan.ofCommands level commands)] else []

end ShellVet.Cli
