import ShellVet.Text.Case
import ShellVet.Text.Class

/-!
# Sets of characters in patterns

A set is a list of characters, ranges and classes, or all characters outside such a list. A caseless
set looks at the lower case of a character: it holds the character if it holds one with that lower
case, or with a lower case of the same family.
-/

namespace ShellVet

/-- How far a pattern looks through letter case. -/
inductive Folding where
  | exact
  /-- The 26 letters of ASCII. -/
  | ascii
  | full
  deriving DecidableEq, Repr

/-- The classes that have a letter in pattern text. -/
inductive CharClass where
  | digit
  | blank
  | word
  deriving DecidableEq, Repr

/-- One entry of a set. -/
inductive CharItem where
  | char (c : Char)
  | range (first last : Char)
  /-- A class, in ASCII alone or in all scripts, or what is outside of it. -/
  | class (kind : CharClass) (asciiOnly outside : Bool)
  deriving DecidableEq, Repr

/-- A set of characters. -/
structure CharSet where
  items : List CharItem
  folding : Folding := .exact
  negated : Bool := false
  deriving DecidableEq, Repr

/-- Whether the character belongs to the class. -/
def CharClass.has (asciiOnly : Bool) (c : Char) : CharClass → Bool
  | .digit => if asciiOnly then c.isDigit else Text.isDecimal c
  | .blank => (!asciiOnly || c.toNat < 28) && Text.isBlank c || c == ' '
  | .word => if asciiOnly then c.isAlphanum || c == '_' else Text.isNameChar c

/-- The lower case that a folding compares. -/
def Folding.lower : Folding → Char → Char
  | .exact, c => c
  | .ascii, c => c.toLower
  | .full, c => Text.lowerChar c

/-- The characters that count as the same as a folded one, in any case. -/
def Folding.sources : Folding → Char → List Char
  | .exact, c => [c]
  | .ascii, c => if c.toLower == c then [c, c.toUpper] else []
  | .full, c => (c :: Text.caseFamily c).flatMap Text.lowerSources

/-- Whether two characters are the same for a folding. -/
def Folding.same : Folding → Char → Char → Bool
  | .exact, a, b => a == b
  | .ascii, a, b => a.toLower == b.toLower
  | .full, a, b =>
    let (a, b) := (Text.lowerChar a, Text.lowerChar b)
    a == b || (Text.caseFamily b).contains a

/-- Whether the entry holds the character. -/
def CharItem.has (folding : Folding) (c : Char) : CharItem → Bool
  | .char wanted => folding.same c wanted
  | .range first last =>
    (first ≤ c && c ≤ last && folding.lower c == c) ||
      (folding.sources (folding.lower c)).any fun source => first ≤ source && source ≤ last
  | .class kind asciiOnly outside => kind.has asciiOnly (folding.lower c) != outside

/-- Whether the set holds the character. -/
def CharSet.has (set : CharSet) (c : Char) : Bool :=
  set.items.any (·.has set.folding c) != set.negated

end ShellVet
