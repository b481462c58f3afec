import ShellVet.Json.Shown
import ShellVet.Policy.Category

/-!
# Security levels

A level names the categories it allows and the checks it makes. Each level allows all that the
stricter ones allow.
-/

namespace ShellVet

/-- How much a configuration is trusted. -/
inductive Level where
  | strict
  | standard
  | permissive
  deriving DecidableEq, Repr

namespace Level

/-- All levels, the strictest first. -/
def all : List Level := [.strict, .standard, .permissive]

/-- The key of a level. -/
def key : Level → String
  | .strict => "STRICT"
  | .standard => "STANDARD"
  | .permissive => "PERMISSIVE"

/-- The title of a level. -/
def title : Level → String
  | .strict => "Strict"
  | .standard => "Standard"
  | .permissive => "Permissive"

/-- What a level is for. -/
def description : Level → String
  | .strict =>
    "Only safe commands allowed. No network or package installations in scripts."
  | .standard =>
    "Allows package managers and git in scripts. Recommended for trusted configs."
  | .permissive =>
    "Allows most operations with warnings. Only for fully trusted configs."

/-- The categories a level allows, the least privileged first. -/
def categories : Level → List Category
  | .strict => [.safe, .filesystem]
  | .standard => [.safe, .filesystem, .network, .packageManagers]
  | .permissive => [.safe, .filesystem, .network, .packageManagers, .system]

/-- Whether the level reads commands by the grammar of the shell. -/
def readsCommands : Level → Bool
  | .permissive => false
  | _ => true

/-- Whether the level blocks obfuscated commands. -/
def blocksObfuscation : Level → Bool
  | .permissive => false
  | _ => true

/-- What the level warns of whatever is scanned. -/
def warning? : Level → Option String
  | .permissive => some
      ("PERMISSIVE mode allows dangerous system operations including sudo commands. " ++
        "Only use this with configurations you completely trust. " ++
        "Malicious configs could compromise your system.")
  | _ => none

/-- The level where nothing else is said. -/
def default : Level := .strict

/-- Whether the level allows a category. -/
def allows (level : Level) (category : Category) : Bool :=
  level.categories.contains category

/-- The level of a key, in any case and with white space around it. -/
def ofKey? (key : String) : Option Level :=
  let normal := String.ofList (Text.upper (Text.trim key.toList))
  all.find? fun level => level.key == normal

/-- The level of a value, which has to be a text. -/
def ofJson? {τ : Type} [Coded τ] : Json τ → Option Level
  | .string key => (Coded.string? key).bind ofKey?
  | _ => none

/-- The levels looser than one, the nearest first. -/
def looser : Level → List Level
  | .strict => [.standard, .permissive]
  | .standard => [.permissive]
  | .permissive => []

/-- What is said of a value that is the key of no level. -/
def unknownMessage {τ : Type} [Coded τ] (key : Json τ) : String :=
  let expected := ", ".intercalate (all.map Level.key)
  s!"Unknown security level {key.shown} (expected one of: {expected})"

end Level

end ShellVet
