import ShellVet.Signature.Dangerous
import ShellVet.Signature.Suspicious

/-!
# The risk of one command

The severity of the first dangerous signature that matches; otherwise medium if a suspicious one
does, and low if none does.
-/

namespace ShellVet.Risk

/-- The first dangerous threat in a command. -/
def danger? (command : String) : Option Threat :=
  (Signature.first? Threat.dangerous command.toList).map (·.label)

/-- The first suspicious threat in a command. -/
def suspicion? (command : String) : Option Threat :=
  (Signature.first? Threat.suspicious command.toList).map (·.label)

/-- Whether a dangerous signature matches. -/
def isDangerous (command : String) : Bool :=
  (danger? command).isSome

/-- Whether a suspicious signature matches. -/
def isSuspicious (command : String) : Bool :=
  (suspicion? command).isSome

/-- The risk of a command. -/
def assess (command : String) : Severity :=
  match danger? command with
  | some threat => threat.severity
  | none => if isSuspicious command then .medium else .low

end ShellVet.Risk
