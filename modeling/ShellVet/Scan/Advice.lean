import ShellVet.Scan.Findings

/-!
# Warnings and recommendations

What is said about the findings of a scan: warnings, the gravest first, and what to do about
blocked, unknown and unread commands.
-/

namespace ShellVet.Findings

/-- Texts with commas between them. -/
def listed (items : List String) : String := ", ".intercalate items

/-- A text if a condition holds. -/
def sayIf (condition : Bool) (text : String) : List String :=
  if condition then [text] else []

/-- What is said of the findings, the gravest first. -/
def remarks (level : Level) (findings : Findings) : List String :=
  let signals := findings.signals
  sayIf signals.obfuscated
      (s!"Obfuscated commands detected ({listed findings.techniques}). " ++
        "This is a common technique for hiding malicious code.") ++
    sayIf signals.dangerous
      (s!"Found {findings.dangerous.length} potentially dangerous command(s) " ++
        "that could harm your system.") ++
    sayIf (signals.suspicious && !signals.dangerous)
      (s!"Found {findings.suspicious.length} command(s) that download software, " ++
        "require elevated privileges or change your environment.") ++
    sayIf signals.blocked
      (s!"{findings.blocked.length} command(s) not allowed by the {level.title} " ++
        s!"security level: {listed findings.blocked}") ++
    sayIf signals.unknown
      (s!"{findings.unknown.length} unrecognized command(s): {listed findings.unknown}") ++
    sayIf findings.unread
      "Some commands could not be parsed and were checked by pattern matching only."

/-- The warnings: what is said of the findings, and last what the level always warns of. -/
def warnings (level : Level) (findings : Findings) : List String :=
  findings.remarks level ++ level.warning?.toList

/-- The blocked commands that belong to a category. -/
def knownBlocked (findings : Findings) : List String :=
  findings.blocked.filter fun name => !findings.unknown.contains name

/-- Whether a command belongs to the category that no level allows. -/
def isForbidden (name : String) : Bool :=
  Category.ofCommand? name == some .dangerous

/-- The blocked commands that some level allows. -/
def unlockable (findings : Findings) : List String :=
  findings.knownBlocked.filter fun name => !isForbidden name

/-- The nearest looser level that allows all commands. -/
def levelFor? (level : Level) (names : List String) : Option Level :=
  level.looser.find? fun looser => names.all fun name => Category.allow looser.categories name false

/-- The advice to switch to a looser level, if one helps. -/
def switchAdvice (level : Level) (names : List String) : List String :=
  match levelFor? level names with
  | some target =>
    sayIf (!names.isEmpty)
      (s!"Switch to the {target.title} security level to allow: {listed names}. " ++
        "Only do this if you trust the source of this configuration.")
  | none => []

/-- The recommendations. -/
def recommendations (level : Level) (findings : Findings) : List String :=
  switchAdvice level findings.unlockable ++
    sayIf (findings.knownBlocked.any isForbidden)
      ("Commands in the DANGEROUS category are never allowed by any security level. " ++
        "Review them manually before running this configuration.") ++
    sayIf (!findings.unknown.isEmpty && level == Level.default)
      ("Unrecognized commands are blocked by default. " ++
        "Verify what they do before importing this configuration.") ++
    sayIf findings.unread "Review the commands that could not be parsed before running them."

end ShellVet.Findings
