import ShellVet.Text.Codes

/-!
# Tokens of YAML

The pieces a document is read into. Block structure, which the text shows by indentation, has tokens
of its own.
-/

namespace ShellVet.Yaml

/-- A line that speaks about the document. -/
inductive Directive where
  | version (major : Nat)
  | tag (handle tagPrefix : String)
  | other
  deriving DecidableEq, Repr

/-- A token. -/
inductive Token where
  | directive (directive : Directive)
  | documentStart
  | documentEnd
  | streamEnd
  | blockSequenceStart
  | blockMappingStart
  | blockEnd
  | flowSequenceStart
  | flowSequenceEnd
  | flowMappingStart
  | flowMappingEnd
  | blockEntry
  | flowEntry
  | key
  | value
  | alias (name : String)
  | anchor (name : String)
  /-- A tag: its handle, if it has one, and the rest of it. -/
  | tag (handle : Option String) (suffix : String)
  | scalar (text : CodeText) (plain : Bool)
  deriving DecidableEq, Repr

end ShellVet.Yaml
