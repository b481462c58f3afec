import ShellVet.Regex.Match
import ShellVet.Signature.Phrase

/-!
# Tags

A tag says what kind of value a node stands for. A plain scalar without a tag takes the first one
whose pattern its text fits.
-/

namespace ShellVet.Yaml

open Regex Phrase

/-- The kinds of values that nodes without a tag can stand for, and those that tags can ask for. -/
inductive Tag where
  | null
  | bool
  | int
  | float
  | binary
  | timestamp
  | omap
  | pairs
  | set
  | str
  | seq
  | map
  /-- A key whose value is merged into the mapping. -/
  | merge
  /-- The equals sign, which stands for the value of a mapping. -/
  | value
  /-- A tag that stands for nothing a document can hold. -/
  | other (name : String)
  deriving DecidableEq, Repr

/-- What the names of the known tags start with. -/
def tagNamespace : String := "tag:yaml.org,2002:"

/-- The known tags by the rest of their names. -/
def knownTags : List (String × Tag) :=
  [("null", .null), ("bool", .bool), ("int", .int), ("float", .float), ("binary", .binary),
   ("timestamp", .timestamp), ("omap", .omap), ("pairs", .pairs), ("set", .set), ("str", .str),
   ("seq", .seq), ("map", .map), ("merge", .merge), ("value", .value)]

/-- The tag of a full name. -/
def Tag.ofName (name : String) : Tag :=
  ((knownTags.find? fun known => tagNamespace ++ known.1 == name).map (·.2)).getD (.other name)

/-- A text from start to end. -/
def whole (pieces : List Regex) : Regex := row (opening :: pieces ++ [ending])

/-- One of the texts, from start to end. -/
def wholeText (texts : List String) : Regex := whole [anyOf texts]

/-- A digit. -/
def asciiDigit : Regex := among [.range '0' '9']

/-- So many digits, or one less. -/
def upTo (count : Nat) : Regex := .loop false (count - 1) (some count) asciiDigit

/-- A sign, if there is one. -/
def sign : Regex := maybe (oneOf "-+")

/-- Digits and low lines. -/
def spacedDigits : Regex := many (among [.range '0' '9', .char '_'])

/-- A digit, and then digits and low lines. -/
def number : Regex := row [asciiDigit, spacedDigits]

/-- Digits and low lines, the first of which is no zero. -/
def naturalNumber : Regex := row [among [.range '1' '9'], spacedDigits]

/-- Further parts of a number in base sixty. -/
def sixtieths : Regex :=
  several (row [spell ":", maybe (among [.range '0' '5']), asciiDigit])

/-- The pattern of truth values. -/
def boolRegex : Regex :=
  wholeText ["yes", "Yes", "YES", "no", "No", "NO", "true", "True", "TRUE", "false", "False",
    "FALSE", "on", "On", "ON", "off", "Off", "OFF"]

/-- The pattern of numbers with a fraction. -/
def floatRegex : Regex :=
  let exponent := maybe (row [oneOf "eE", oneOf "-+", several asciiDigit])
  whole
    [choice
      [row [sign, number, spell ".", spacedDigits, exponent],
       row [spell ".", number, exponent],
       row [sign, number, sixtieths, spell ".", spacedDigits],
       row [sign, spell ".", anyOf ["inf", "Inf", "INF"]],
       row [spell ".", anyOf ["nan", "NaN", "NAN"]]]]

/-- The pattern of integers. -/
def intRegex : Regex :=
  let digits (ranges : List CharItem) := several (among (ranges ++ [.char '_']))
  whole
    [choice
      [row [sign, spell "0b", digits [.range '0' '1']],
       row [sign, spell "0", digits [.range '0' '7']],
       row [sign, choice [spell "0", naturalNumber]],
       row [sign, spell "0x", digits [.range '0' '9', .range 'a' 'f', .range 'A' 'F']],
       row [sign, naturalNumber, sixtieths]]]

/-- The pattern of the null value. -/
def nullRegex : Regex := wholeText ["~", "null", "Null", "NULL", ""]

/-- The end of a day and the start of a time. -/
def timeGap : Regex := choice [oneOf "Tt", several (oneOf " \t")]

/-- The pattern of points in time. -/
def timestampRegex : Regex :=
  let two := times 2 asciiDigit
  let dash := spell "-"
  let colon := spell ":"
  let zone :=
    row [many (oneOf " \t"),
      choice [spell "Z", row [oneOf "-+", upTo 2, maybe (row [colon, two])]]]
  whole
    [choice
      [row [times 4 asciiDigit, dash, two, dash, two],
       row [times 4 asciiDigit, dash, upTo 2, dash, upTo 2, timeGap, upTo 2, colon, two, colon, two,
         maybe (row [spell ".", many asciiDigit]), maybe zone]]]

/-- The patterns of tags that plain scalars take, with the characters that the scalar may start
with, in the order in which they are tried. -/
def implicitTags : List (Tag × List Char × Regex) :=
  let digits := "0123456789"
  [(.bool, "yYnNtTfFoO".toList, boolRegex),
   (.float, ("-+." ++ digits).toList, floatRegex),
   (.int, ("-+" ++ digits).toList, intRegex),
   (.merge, ['<'], wholeText ["<<"]),
   (.null, ['~', 'n', 'N'], nullRegex),
   (.timestamp, digits.toList, timestampRegex),
   (.value, ['='], wholeText ["="]),
   (.other "yaml", ['!', '&', '*'], wholeText ["!", "&", "*"])]

/-- The tag of a plain scalar. -/
def implicitTag (text : List Char) : Tag :=
  match text with
  | [] => .null
  | c :: _ =>
    match implicitTags.find? fun entry =>
        entry.2.1.contains c && (entry.2.2.search text).isSome with
    | some entry => entry.1
    | none => .str

end ShellVet.Yaml
