import ShellVet.Json.Keys
import ShellVet.Json.Shown
import ShellVet.Policy.Level
import ShellVet.Severity

/-!
# The saved preference

A configuration names the level to scan under and the severity from which on a scan fails. Its
version and the time of its making are kept as they are. Reading a configuration replaces what is
not valid by the strict default, and says so.
-/

namespace ShellVet

/-- From which severity on a scan fails. -/
inductive Threshold where
  | low
  | medium
  | high
  | critical
  | never
  deriving DecidableEq, Repr

namespace Threshold

/-- All thresholds. -/
def all : List Threshold := [.low, .medium, .high, .critical, .never]

/-- The name of a threshold. -/
def name : Threshold → String
  | .low => "low"
  | .medium => "medium"
  | .high => "high"
  | .critical => "critical"
  | .never => "never"

/-- The threshold of a name. -/
def ofName? (name : String) : Option Threshold :=
  all.find? fun threshold => threshold.name == name

/-- The threshold of a value, which has to be a text. -/
def ofJson? : Json CodeText → Option Threshold
  | .string name => (Coded.string? name).bind ofName?
  | _ => none

/-- The threshold where nothing else is said. -/
def default : Threshold := .high

/-- Whether a severity is grave enough to fail. Where nothing was found, or the threshold is
`never`, none is. -/
def isReachedBy (threshold : Threshold) (severity : Severity) : Bool :=
  threshold != .never && severity != .none && Severity.reaches severity.name threshold.name

end Threshold

/-- The saved preference. -/
structure Config where
  version : Json CodeText
  initialized : Json CodeText
  level : Level
  threshold : Threshold
  deriving Repr

namespace Config

/-- The version that is written where none is known. -/
def currentVersion : Json CodeText := .string "1.0.0"

/-- The configuration where none is saved. -/
def default (now : String) : Config :=
  ⟨currentVersion, .string now, .default, .default⟩

/-- The members of a configuration as a JSON object. -/
def members (config : Config) : Json.Members CodeText :=
  [("version", config.version),
   ("initialized", config.initialized),
   ("security", .object
      [("level", .string config.level.key),
       ("fail_on", .string config.threshold.name)])]

/-- A configuration as a JSON object. -/
def toJson (config : Config) : Json CodeText := .object config.members

/-- Whether a key is a spelling of a name. -/
def spells (name : String) (key : CodeText) : Bool :=
  (Coded.string? key).any fun key => Json.toSnake key == name

/-- The value of the last member whose key is a spelling of the name. -/
def field? (name : String) (members : Json.Members CodeText) : Option (Json CodeText) :=
  (members.reverse.find? fun member => spells name member.1).map (·.2)

/-- The members under `security`: none where the value is empty; not read where it is something else
than an object. -/
def security? (members : Json.Members CodeText) : Option (Json.Members CodeText) :=
  match members.lookup ("security" : CodeText) with
  | none => some []
  | some (.object security) => some security
  | some value => if value.isEmpty then some [] else none

/-- Says that a level was replaced. -/
def levelNotice (value : Json CodeText) : String :=
  s!"pakky-guard: unknown security level {value.shown} in config, using {Level.default.key}"

/-- Says that a threshold was replaced. -/
def thresholdNotice (value : Json CodeText) : String :=
  s!"pakky-guard: invalid fail_on {value.shown} in config, using {Threshold.default.name}"

/-- A value with a default where it is missing, and where it is not valid, then with a notice. The
notice shows the value, which has to be within the limits for that. -/
def orDefault {α : Type} (stack : Stack) (read : Json CodeText → Option α) (fallback : α)
    (notice : Json CodeText → String) : Option (Json CodeText) → Except Limit (α × List String)
  | none => .ok (fallback, [])
  | some value =>
    match read value with
    | some good => .ok (good, [])
    | none =>
      match value.limit? stack.showing with
      | some limit => .error limit
      | none => .ok (fallback, [notice value])

/-- Why an object makes no configuration, or a configuration no object. -/
inductive Unfit where
  /-- The security settings are no object. -/
  | security
  | limit (limit : Limit)
  deriving DecidableEq, Repr

/-- The configuration of an object, and notices of what was replaced. -/
def ofMembers (stack : Stack) (members : Json.Members CodeText) :
    List String × Except Unfit Config :=
  match security? members with
  | none => ([], .error .security)
  | some security =>
    match orDefault stack Level.ofJson? .default levelNotice (field? "level" security) with
    | .error limit => ([], .error (.limit limit))
    | .ok (level, aboutLevel) =>
      match orDefault stack Threshold.ofJson? .default thresholdNotice
          (field? "fail_on" security) with
      | .error limit => (aboutLevel, .error (.limit limit))
      | .ok (threshold, aboutThreshold) =>
        (aboutLevel ++ aboutThreshold,
          .ok ⟨(members.lookup ("version" : CodeText)).getD currentVersion,
            (members.lookup ("initialized" : CodeText)).getD (.string ""),
            level, threshold⟩)

end Config

end ShellVet
