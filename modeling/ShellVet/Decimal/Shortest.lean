import ShellVet.Decimal.Binary

/-!
# The shortest decimal of a number

`shortest` is the decimal with the fewest digits that is read back as the same number, and among
those the nearest one. `text` writes it, positionally for moderate exponents.
-/

namespace ShellVet.Decimal

/-- A decimal `0.d₁d₂…dₙ · 10^point`. -/
structure Numeral where
  digits : List Char
  point : Int
  deriving DecidableEq, Repr

/-- The numbers that round to one number: all between `low` and `high` over `den`, the ends too
where `closed`. The number itself is `mid` over `den`. -/
structure Span where
  low : Nat
  mid : Nat
  high : Nat
  den : Nat
  closed : Bool
  deriving DecidableEq, Repr

/-- The span of m · 2^q. Below a power of two the neighbours are twice as dense. -/
def spanOf (significand : Nat) (exponent : Int) : Span :=
  let dense := significand = Nat.pow 2 52 ∧ exponent > -1074
  let unit := scaleDown 1 1 (2 - exponent)
  let quarter (count : Nat) := count * unit.1
  ⟨quarter (4 * significand - if dense then 1 else 2), quarter (4 * significand),
    quarter (4 * significand + 2), unit.2, significand % 2 = 0⟩

/-- Ten to a power, as a quotient. -/
def tenTo : Int → Nat × Nat
  | .ofNat k => (Nat.pow 10 k, 1)
  | .negSucc k => (1, Nat.pow 10 (k + 1))

/-- Whether `c · 10^k` lies in the span. -/
def Span.has (span : Span) (c : Nat) (k : Int) : Bool :=
  let (num, den) := tenTo k
  let point := c * num * span.den
  if span.closed then span.low * den ≤ point && point ≤ span.high * den
  else span.low * den < point && point < span.high * den

/-- Distance of `c · 10^k` from the middle of the span, up to a factor that hangs on k alone. -/
def Span.distance (span : Span) (c : Nat) (k : Int) : Nat :=
  let (num, den) := tenTo k
  let point := c * num * span.den
  (point - span.mid * den) + (span.mid * den - point)

/-- The best point of the grid `10^k`, if one lies in the span: one of the two neighbours of the
middle, the nearer one, and of equally near ones the even one. -/
def Span.onGrid (span : Span) (k : Int) : Option Nat :=
  let (num, den) := tenTo k
  let below := span.mid * den / (span.den * num)
  match span.has below k, span.has (below + 1) k with
  | true, true =>
    let left := span.distance below k
    let right := span.distance (below + 1) k
    some (if left < right || (left == right && below % 2 == 0) then below else below + 1)
  | true, false => some below
  | false, true => some (below + 1)
  | false, false => none

/-- Whether the middle of the span is below a power of ten. -/
def Span.below (span : Span) (k : Int) : Bool :=
  let (num, den) := tenTo k
  span.mid * den < num * span.den

/-- The least power of ten above m · 2^q, found next to an estimate from its binary length. -/
def pointOf (span : Span) (significand : Nat) (exponent : Int) : Int :=
  let estimate := ((significand.log2 : Int) + exponent) * 30103 / 100000
  ([estimate - 1, estimate, estimate + 1, estimate + 2].find? span.below).getD (estimate + 3)

/-- Drops the zeros at the end. -/
def stripZeros (digits : List Char) : List Char :=
  (digits.reverse.dropWhile (· == '0')).reverse

/-- The shortest decimal of m · 2^q: the first grid with a point in the span decides. -/
def shortest (significand : Nat) (exponent : Int) : Numeral :=
  let span := spanOf significand exponent
  let point := pointOf span significand exponent
  let found := (List.range 17).findSome? fun (n : Nat) =>
    let k := point - ((n : Int) + 1)
    (span.onGrid k).map fun c => (c, k)
  let (c, k) := found.getD (0, 0)
  let digits := Nat.toDigits 10 c
  ⟨stripZeros digits, digits.length + k⟩

/-- An exponent with its sign and two digits or more. -/
def exponentText (exponent : Int) : List Char :=
  let digits := Nat.toDigits 10 exponent.natAbs
  (if exponent < 0 then '-' else '+') :: (if digits.length < 2 then '0' :: digits else digits)

/-- Writes a numeral: positionally where the point falls among the first sixteen digits or at most
three zeros before them, and with an exponent otherwise. -/
def Numeral.text (numeral : Numeral) : List Char :=
  let ⟨digits, point⟩ := numeral
  if -4 < point && point ≤ 0 then
    '0' :: '.' :: List.replicate (-point).toNat '0' ++ digits
  else if 0 < point && point ≤ 16 then
    let whole := point.toNat
    if digits.length ≤ whole then
      digits ++ List.replicate (whole - digits.length) '0' ++ ['.', '0']
    else digits.take whole ++ '.' :: digits.drop whole
  else
    let tail := exponentText (point - 1)
    match digits with
    | [] => []
    | [d] => d :: 'e' :: tail
    | d :: rest => d :: '.' :: rest ++ 'e' :: tail

/-- The text of a magnitude. -/
def Magnitude.text : Magnitude → List Char
  | .notNumber => ['n', 'a', 'n']
  | .infinite => ['i', 'n', 'f']
  | .finite 0 _ => ['0', '.', '0']
  | .finite significand exponent => (shortest significand exponent).text

/-- The text of a number. -/
def text (x : Float) : String :=
  let (negative, magnitude) := decode x
  String.ofList
    (if negative && magnitude ≠ .notNumber then '-' :: magnitude.text else magnitude.text)

end ShellVet.Decimal
