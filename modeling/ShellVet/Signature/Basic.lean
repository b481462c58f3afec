import ShellVet.Regex.Match
import ShellVet.Regex.Reader

/-!
# Signatures

A signature is a pattern with a label. Signatures are tried in the order of their list; `scan` finds
all that match, `first?` stops at the first.
-/

namespace ShellVet

/-- A pattern with a label. -/
structure Signature (α : Type) where
  label : α
  regex : Regex
  deriving DecidableEq, Repr

/-- A signature that matches, and where. -/
structure Finding (α : Type) where
  label : α
  found : Match
  deriving DecidableEq, Repr

namespace Signature

/-- The leftmost match of a signature. -/
def find? {α : Type} (text : List Char) (signature : Signature α) : Option (Finding α) :=
  (signature.regex.search text).map fun found => ⟨signature.label, found⟩

/-- All signatures that match. -/
def scan {α : Type} (signatures : List (Signature α)) (text : List Char) : List (Finding α) :=
  signatures.filterMap (find? text)

/-- The first signature that matches. -/
def first? {α : Type} (signatures : List (Signature α)) (text : List Char) : Option (Finding α) :=
  signatures.findSome? (find? text)

/-- Whether a signature matches. -/
def anyIn {α : Type} (signatures : List (Signature α)) (text : List Char) : Bool :=
  (first? signatures text).isSome

/-- The mark of a caseless pattern text. -/
def caselessMark : List Char := ['(', '?', 'i', ')']

section
variable (host : Regex.Host)

/-- The pattern of a text, which may start with the mark of caseless patterns. -/
def readRegex (text : List Char) : Except Regex.Fault Regex :=
  if caselessMark.isPrefixOf text then
    Regex.readWith host { ignoreCase := true } (text.drop caselessMark.length)
  else Regex.read host text

/-- The signature of a pattern text; none if the text breaks the syntax. -/
def ofText {α : Type} (label : α) (text : List Char) : Except Regex.Fault (Option (Signature α)) :=
  match readRegex host text with
  | .ok regex => .ok (some ⟨label, regex⟩)
  | .error .invalid => .ok none
  | .error fault => .error fault

/-- The signatures of labelled pattern texts, without those that break the syntax. -/
def ofTexts {α : Type} (sources : List (α × List Char)) :
    Except Regex.Fault (List (Signature α)) :=
  (sources.mapM fun source => ofText host source.1 source.2).map fun kept => kept.filterMap id

end

end Signature

end ShellVet
