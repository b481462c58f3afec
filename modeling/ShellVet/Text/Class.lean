import ShellVet.Text.Blank
import ShellVet.Text.LetterTable
import ShellVet.Text.NameTable
import ShellVet.Text.NumeralTable
import ShellVet.Text.PrintableTable

/-!
# Character classes

Letters, numerals and printable characters. Each class answers for ASCII by a direct test and for
the rest from its table.
-/

namespace ShellVet.Text

/-- Whether the character is a letter. -/
def isLetter (c : Char) : Bool :=
  if c.toNat < 128 then c.isAlpha else letterRanges.has c.toNat

/-- Whether the character is a decimal digit of some script. -/
def isDecimal (c : Char) : Bool :=
  if c.toNat < 128 then c.isDigit else decimalRanges.has c.toNat

/-- Whether the character is a digit, in positional notation or not. -/
def isDigit (c : Char) : Bool :=
  isDecimal c || otherDigitRanges.has c.toNat

/-- Whether the character is a letter or has a numeric value. -/
def isAlphanumeric (c : Char) : Bool :=
  if c.toNat < 128 then c.isAlphanum
  else letterRanges.has c.toNat || numeralRanges.has c.toNat

/-- Whether the character may stand inside a name: a letter, a numeral or the low line. -/
def isNameChar (c : Char) : Bool :=
  c == '_' || isAlphanumeric c

/-- Whether an identifier may start with the character. -/
def startsName (c : Char) : Bool :=
  if c.toNat < 128 then c.isAlpha || c == '_'
  else (letterRanges.has c.toNat && !nonStartingRanges.has c.toNat) ||
    otherNameStartRanges.has c.toNat

/-- Whether the text is an identifier. -/
def isIdentifier : List Char → Bool
  | [] => false
  | c :: rest =>
    startsName c && rest.all fun c => startsName c || isDecimal c || nameTailRanges.has c.toNat

/-- The value of a decimal digit: digits stand in runs of ten that begin with a zero. -/
def decimalValue (c : Char) : Nat :=
  match decimalRanges.find? fun range => range.1 ≤ c.toNat && c.toNat ≤ range.2 with
  | some range => (c.toNat - range.1) % 10
  | none => 0

/-- Whether the character shows as itself in quoted text. -/
def isPrintable (c : Char) : Bool :=
  if c.toNat < 128 then 32 ≤ c.toNat && c.toNat < 127 else !unprintableRanges.has c.toNat

end ShellVet.Text
