/-!
# Severity

How grave a finding is, and the rating of a whole scan from its signals. A threshold is given by
name; `never` and names that mean nothing rank with `none`.
-/

namespace ShellVet

/-- How grave a finding is. -/
inductive Severity where
  | none
  | low
  | medium
  | high
  | critical
  deriving DecidableEq, Repr

namespace Severity

/-- All severities, in rising order. -/
def all : List Severity := [.none, .low, .medium, .high, .critical]

/-- The name of a severity. -/
def name : Severity → String
  | .none => "none"
  | .low => "low"
  | .medium => "medium"
  | .high => "high"
  | .critical => "critical"

/-- The place of a severity among all. -/
def rank : Severity → Nat
  | .none => 0
  | .low => 1
  | .medium => 2
  | .high => 3
  | .critical => 4

/-- The rank of a name; zero for a name that means nothing. -/
def rankOf (name : String) : Nat :=
  ((all.find? fun severity => severity.name == name).map rank).getD 0

/-- Whether the severity of a name reaches the threshold of another. -/
def reaches (severity threshold : String) : Bool :=
  rankOf threshold ≤ rankOf severity

/-- What a scan found. -/
structure Signals where
  dangerous : Bool
  obfuscated : Bool
  suspicious : Bool
  blocked : Bool := false
  unknown : Bool := false
  deriving DecidableEq, Repr

/-- The rating of a scan: the first rule that holds. -/
def ofSignals (signals : Signals) : Severity :=
  if signals.dangerous && signals.obfuscated then .critical
  else if signals.dangerous || signals.obfuscated then .high
  else if signals.suspicious then .medium
  else if signals.blocked || signals.unknown then .low
  else .none

end Severity

end ShellVet
