import ShellVet.Decimal.Read
import ShellVet.Text.Class
import ShellVet.Yaml.Error

/-!
# Numbers in YAML

Integers are written in base two, eight, ten, sixteen or sixty, other numbers in base ten or sixty.
Low lines between digits do not count. A tag can ask for a number of any text, so the readers refuse
what is no number.
-/

namespace ShellVet.Yaml

/-- A text without low lines. -/
def withoutLowLines (text : List Char) : List Char := text.filter (· != '_')

/-- The text with white space at its ends dropped and the decimal digits of all scripts replaced by
those of ASCII. -/
def plainDigits (text : List Char) : List Char :=
  (Text.trim text).map fun c =>
    if c.toNat ≥ 128 && Text.isDecimal c then Char.ofNat (48 + Text.decimalValue c) else c

/-- A sign, which is true for the negative one, and the text after it. -/
def splitSign : List Char → Bool × List Char
  | '-' :: rest => (true, rest)
  | '+' :: rest => (false, rest)
  | rest => (false, rest)

/-- The letter that goes between a zero and the digits of a base. -/
def baseLetter? : Nat → Option Char
  | 2 => some 'b'
  | 8 => some 'o'
  | 16 => some 'x'
  | _ => none

/-- The text without the mark of a base. -/
def dropBaseMark (base : Nat) : List Char → List Char
  | '0' :: letter :: rest =>
    if baseLetter? base = some letter.toLower then rest else '0' :: letter :: rest
  | rest => rest

/-- Whether the character is a digit of a base. -/
def isDigitIn (base : Nat) (c : Char) : Bool :=
  (Decimal.digitValue? c).any (· < base)

/-- Applies a sign. -/
def signed (negative : Bool) (value : Int) : Int := if negative then -value else value

/-- An integer in a base, with sign, white space around it and the mark of the base allowed. -/
def readInteger (base : Nat) (text : List Char) : Except Fault Int :=
  let (negative, unsigned) := splitSign (plainDigits text)
  let digits := dropBaseMark base unsigned
  let leading := (digits.takeWhile (isDigitIn base)).length
  if base = 10 && leading > digitLimit then .error (.tooManyDigits leading)
  else if digits.isEmpty || leading < digits.length then .error (.integer base text)
  else .ok (signed negative (Decimal.ofDigits base digits))

/-- The parts of a text between colons. -/
def colonParts (text : List Char) : List (List Char) := text.splitOn ':'

/-- An integer from its text. -/
def intOf (text : List Char) : Except Fault Int := do
  let text := withoutLowLines text
  if text.isEmpty then throw .emptyNumber
  let (negative, digits) := splitSign text
  match digits with
  | ['0'] => return 0
  | '0' :: 'b' :: rest => return signed negative (← readInteger 2 rest)
  | '0' :: 'x' :: rest => return signed negative (← readInteger 16 rest)
  | '0' :: _ => return signed negative (← readInteger 8 digits)
  | [] => throw .emptyNumber
  | _ =>
    if digits.contains ':' then
      let parts ← (colonParts digits).mapM (readInteger 10)
      return signed negative (parts.foldl (fun sum part => sum * 60 + part) 0)
    else return signed negative (← readInteger 10 digits)

/-- The exponent at the end of a decimal: an `e`, a sign and digits. -/
def exponentOf? : List Char → Option Int
  | [] => some 0
  | e :: rest =>
    let (negative, digits) := splitSign rest
    if (e == 'e' || e == 'E') && !digits.isEmpty && digits.all Char.isDigit then
      some (signed negative (Decimal.ofDigits 10 digits))
    else none

/-- A decimal of plain digits, without a sign. -/
def readPlainDecimal? (negative : Bool) (text : List Char) : Option Float :=
  let whole := text.takeWhile Char.isDigit
  let afterWhole := text.dropWhile Char.isDigit
  let (fraction, rest) := match afterWhole with
    | '.' :: rest => (rest.takeWhile Char.isDigit, rest.dropWhile Char.isDigit)
    | rest => ([], rest)
  if whole.isEmpty && fraction.isEmpty then none
  else (exponentOf? rest).map (Decimal.ofParts negative whole fraction)

/-- A decimal with sign, white space around it and the names of infinity and of "not a number"
allowed. -/
def readDecimal (text : List Char) : Except Fault Float :=
  let (negative, unsigned) := splitSign (plainDigits text)
  let name := String.ofList (unsigned.map Char.toLower)
  if name == "inf" || name == "infinity" then .ok (Decimal.infinity negative)
  else if name == "nan" then .ok Decimal.notNumber
  else match readPlainDecimal? negative unsigned with
    | some value => .ok value
    | none => .error (.decimal text)

/-- A power of sixty as a number of double precision, which it has to be within the range of. -/
def sixtyTo (exponent : Nat) : Except Fault Float :=
  if Nat.pow 2 1024 ≤ Nat.pow 60 exponent then .error .overlongSum
  else .ok (Decimal.ofQuotient false (Nat.pow 60 exponent) 1)

/-- The sum of the parts of a number in base sixty, the last part first. -/
def sumParts : Nat → Float → List Float → Except Fault Float
  | _, sum, [] => .ok sum
  | exponent, sum, part :: parts => do
    sumParts (exponent + 1) (sum + part * (← sixtyTo exponent)) parts

/-- A number from its text, in lower case. -/
def floatOf (lowered : List Char) : Except Fault Float := do
  let text := withoutLowLines lowered
  if text.isEmpty then throw .emptyNumber
  let (negative, unsigned) := splitSign text
  let sign : Float := if negative then -1.0 else 1.0
  if unsigned == ['.', 'i', 'n', 'f'] then return Decimal.infinity negative
  else if unsigned == ['.', 'n', 'a', 'n'] then return Decimal.notNumber
  else if unsigned.contains ':' then
    let parts ← (colonParts unsigned).mapM readDecimal
    return sign * (← sumParts 0 0.0 parts.reverse)
  else return sign * (← readDecimal unsigned)

end ShellVet.Yaml
