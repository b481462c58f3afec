import ShellVet.Text.Class
import ShellVet.Text.Codes

/-!
# Quoted text in messages

A text inside a message stands between quotes so that its ends and its invisible characters can be
seen. The quote is an apostrophe, unless the text holds an apostrophe and no quotation mark.
Backslashes and the chosen quote are escaped, the usual controls have letters, and any other
character without a shape is written by its number in two, four or eight hexadecimal digits.
-/

namespace ShellVet.Text

/-- Lower case hexadecimal digit of a number below sixteen. -/
def hexDigit (n : Nat) : Char :=
  if n < 10 then Char.ofNat (48 + n) else Char.ofNat (87 + n)

/-- The lowest `width` hexadecimal digits of a number, most significant first. -/
def hexDigits : Nat → Nat → List Char
  | 0, _ => []
  | width + 1, n => hexDigits width (n / 16) ++ [hexDigit (n % 16)]

/-- One character as it stands between quotes. -/
def quoteChar (quote c : Char) : List Char :=
  if c == quote || c == '\\' then ['\\', c]
  else if c == '\n' then ['\\', 'n']
  else if c == '\r' then ['\\', 'r']
  else if c == '\t' then ['\\', 't']
  else if isPrintable c then [c]
  else if c.toNat < 0x100 then '\\' :: 'x' :: hexDigits 2 c.toNat
  else if c.toNat < 0x10000 then '\\' :: 'u' :: hexDigits 4 c.toNat
  else '\\' :: 'U' :: hexDigits 8 c.toNat

/-- One code point as it stands between quotes. -/
def quotePoint (quote : Char) : CodePoint → List Char
  | .char c => quoteChar quote c
  | half => '\\' :: 'u' :: hexDigits 4 half.code

/-- The quote a text is put between. -/
def quoteFor (text : List CodePoint) : Char :=
  if text.contains (.char '\'') && !text.contains (.char '"') then '"' else '\''

/-- The text between quotes. -/
def quoted {τ : Type} [Coded τ] (text : τ) : String :=
  let points := Coded.points text
  let quote := quoteFor points
  String.ofList (quote :: points.flatMap (quotePoint quote) ++ [quote])

end ShellVet.Text
