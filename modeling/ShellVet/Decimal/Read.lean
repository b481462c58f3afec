import ShellVet.Decimal.Binary

/-!
# Reading decimals

The number nearest to a decimal that is written with digits and a power of ten.
-/

namespace ShellVet.Decimal

/-- The value of a digit in any base up to 36; none for other characters. -/
def digitValue? (c : Char) : Option Nat :=
  if '0' ≤ c && c ≤ '9' then some (c.toNat - 48)
  else if 'a' ≤ c && c ≤ 'z' then some (c.toNat - 87)
  else if 'A' ≤ c && c ≤ 'Z' then some (c.toNat - 55)
  else none

/-- The natural number that digits spell in a base. -/
def ofDigits (base : Nat) (digits : List Char) : Nat :=
  digits.foldl (fun n c => n * base + (digitValue? c).getD 0) 0

/-- The number nearest to `significand · 10^exponent`. An exponent that puts the number out of range
is not carried out. -/
def ofDecimal (negative : Bool) (significand : Nat) (exponent : Int) : Float :=
  let size : Int := (significand.log2 : Int) * 30103 / 100000 + exponent
  if significand = 0 || size < -400 then ofQuotient negative 0 1
  else if size > 400 then infinity negative
  else match exponent with
    | .ofNat k => ofQuotient negative (significand * Nat.pow 10 k) 1
    | .negSucc k => ofQuotient negative significand (Nat.pow 10 (k + 1))

/-- The number written with a sign, digits before and after the point, and an exponent. -/
def ofParts (negative : Bool) (whole fraction : List Char) (exponent : Int) : Float :=
  ofDecimal negative (ofDigits 10 (whole ++ fraction)) (exponent - fraction.length)

end ShellVet.Decimal
