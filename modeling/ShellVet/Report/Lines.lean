import ShellVet.Report.Format
import ShellVet.Scan.Basic

/-!
# Reports

The report of a scan, and the list of all levels, line by line.
-/

namespace ShellVet.Report

open Audience

/-- Commands under a title; nothing if there are none. -/
def listing (audience : Audience) (title : String) (commands : List String) : List String :=
  if commands.isEmpty then [] else s!"\n{title}:" :: commands.map audience.command

/-- The hints of a report behind an empty line; nothing if there are none. -/
def hints (audience : Audience) (recommendations : List String) : List String :=
  if recommendations.isEmpty then []
  else "" :: recommendations.map fun text => audience.info (audience.text text)

/-- The start of a report: title, level, number of commands and severity. -/
def overview (audience : Audience) (source : Option String) (total : Nat) (scan : Scan) :
    List String :=
  let title := match source with
    | some source => "Security scan: " ++ audience.text source
    | none => "Security scan"
  [audience.header title,
   audience.field "Security level" scan.level.title,
   audience.field "Commands scanned" (toString total),
   audience.field "Severity" (audience.severity scan.severity.name)]

/-- What was found, in a report of a scan that is not clean. -/
def details (audience : Audience) (scan : Scan) : List String :=
  let findings := scan.findings
  "" :: scan.warnings.map (fun text => audience.warning (audience.text text)) ++
    listing audience "Dangerous commands" findings.dangerous ++
    listing audience "Obfuscated commands" findings.obfuscated ++
    listing audience "Suspicious commands" findings.suspicious ++
    listing audience "Blocked commands" findings.blocked ++
    hints audience scan.recommendations ++
    [audience.divider]

/-- The report of a scan. A source that has no name is not shown. -/
def ofScan (audience : Audience) (source : Option String) (total : Nat) (scan : Scan) :
    List String :=
  overview audience (source.filter fun name => !name.isEmpty) total scan ++
    if scan.isClean then [audience.success "No security issues found"] else details audience scan

/-- Names of commands or categories with commas between them. -/
def commaList (names : List String) : String := ", ".intercalate names

/-- The lines about one level. -/
def ofLevel (audience : Audience) (level : Level) : List String :=
  [audience.header s!"{level.title} ({level.key})",
   level.description,
   audience.field "Allowed categories"
     (commaList ((Category.all.filter level.allows).map Category.name)),
   audience.field "AST validation" (audience.toggle level.readsCommands),
   audience.field "Obfuscation blocking" (audience.toggle level.blocksObfuscation)] ++
    level.warning?.toList.map audience.warning

/-- The lines about all levels. -/
def levels (audience : Audience) : List String :=
  Level.all.flatMap (ofLevel audience) ++
    ["", audience.field "Never allowed" (commaList Category.dangerous.commands)]

end ShellVet.Report
