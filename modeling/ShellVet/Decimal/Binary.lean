/-!
# Binary fractions of double precision

A finite number of double precision is m · 2^q with m below 2^53 and q at least -1074. `decode`
takes such a number apart. `ofQuotient` goes the other way: it is the number nearest to a quotient,
where of two equally near ones the one with the even m is taken.
-/

namespace ShellVet.Decimal

/-- The number without its sign. -/
inductive Magnitude where
  | finite (significand : Nat) (exponent : Int)
  | infinite
  | notNumber
  deriving DecidableEq, Repr

/-- Sign and magnitude; the sign is true for negative numbers and the negative zero. -/
def decode (x : Float) : Bool × Magnitude :=
  let bits := x.toBits.toNat
  let fraction : Nat := bits % Nat.pow 2 52
  let scale : Nat := bits / Nat.pow 2 52 % Nat.pow 2 11
  let magnitude : Magnitude :=
    if scale = 2047 then (if fraction = 0 then .infinite else .notNumber)
    else if scale = 0 then .finite fraction (-1074)
    else .finite (Nat.pow 2 52 + fraction) ((scale : Int) - 1075)
  (bits ≥ Nat.pow 2 63, magnitude)

/-- Quotient to the nearest natural number, a half to the even one. -/
def roundDiv (num den : Nat) : Nat :=
  let low := num / den
  let rest := 2 * (num % den)
  if rest < den || (rest == den && low % 2 == 0) then low else low + 1

/-- Numerator and denominator of a quotient divided by a power of two. -/
def scaleDown (num den : Nat) : Int → Nat × Nat
  | .ofNat q => (num, den * Nat.pow 2 q)
  | .negSucc q => (num * Nat.pow 2 (q + 1), den)

/-- Bits of infinity. -/
def infinityBits : Nat := 2047 * Nat.pow 2 52

/-- Bits of the number nearest to a quotient. The exponent is chosen so that the significand fills
53 places, or fewer where the exponent would leave its range. -/
def quotientBits (num den : Nat) : Nat :=
  if num = 0 then 0
  else
    let guess : Int := max ((num.log2 : Int) - (den.log2 : Int) - 53) (-1074)
    let trial := scaleDown num den guess
    let exponent := if trial.1 / trial.2 < Nat.pow 2 53 then guess else guess + 1
    let scaled := scaleDown num den exponent
    min ((exponent + 1074).toNat * Nat.pow 2 52 + roundDiv scaled.1 scaled.2) infinityBits

/-- The number nearest to a quotient. -/
def ofQuotient (negative : Bool) (num den : Nat) : Float :=
  Float.ofBits (UInt64.ofNat (quotientBits num den + if negative then Nat.pow 2 63 else 0))

/-- The number that stands for "not a number". -/
def notNumber : Float := Float.ofBits (UInt64.ofNat (infinityBits + Nat.pow 2 51))

/-- Infinity of either sign. -/
def infinity (negative : Bool) : Float :=
  Float.ofBits (UInt64.ofNat (infinityBits + if negative then Nat.pow 2 63 else 0))

end ShellVet.Decimal
