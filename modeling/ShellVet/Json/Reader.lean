import ShellVet.Decimal.Read
import ShellVet.Json.Basic
import ShellVet.Json.Error

/-!
# Reading JSON

The reader takes the grammar of the format with two liberties: `NaN` and the infinities are numbers,
and a key may come twice. It stops at the first flaw. Each step returns what it read with the place
after it.

Two bounds go with a value. `room` is how many arrays and objects the stack can still open inside
each other; opening one more is a fault of its own, whatever the rest of the text is. The other
bound makes the recursion end: each character opens at most one value and one row of items, so twice
the length of the text is enough.
-/

namespace ShellVet.Json

/-- The characters still to come and the number of those before them. -/
structure Place where
  rest : List Char
  pos : Nat

/-- The white space of the format. -/
def isSpace (c : Char) : Bool :=
  c == ' ' || c == '\t' || c == '\n' || c == '\r'

/-- The place after the longest run of characters of a kind. -/
def Place.skip (kind : Char → Bool) (place : Place) : Place :=
  ⟨place.rest.dropWhile kind, place.pos + (place.rest.takeWhile kind).length⟩

/-- The place after white space. -/
def Place.trimmed (place : Place) : Place :=
  place.skip isSpace

/-- A flaw at the place. -/
def Place.fails {α : Type} (place : Place) (flaw : Flaw) : Except Fault α :=
  .error (.flaw flaw place.pos)

/-- The place after `count` characters. -/
def Place.drop (place : Place) (count : Nat) : Place :=
  ⟨place.rest.drop count, place.pos + count⟩

/-- The value of a hexadecimal digit. -/
def hexValue? (c : Char) : Option Nat :=
  (Decimal.digitValue? c).filter (· < 16)

/-- The number that four hexadecimal digits spell. A character has to follow them. -/
def hexFour? : List Char → Option Nat
  | a :: b :: c :: d :: _ :: _ => do
    return (((← hexValue? a) * 16 + (← hexValue? b)) * 16 + (← hexValue? c)) * 16 + (← hexValue? d)
  | _ => none

/-- The character of a letter after a backslash. -/
def letterEscape? : Char → Option Char
  | '"' => some '"'
  | '\\' => some '\\'
  | '/' => some '/'
  | 'b' => some '\x08'
  | 'f' => some '\x0c'
  | 'n' => some '\n'
  | 'r' => some '\r'
  | 't' => some '\t'
  | _ => none

/-- The four-digit code at a place behind `\u`, whose letter is one character before. -/
def unicodeEscape (place : Place) : Except Fault Nat :=
  match hexFour? place.rest with
  | some code => .ok code
  | none => .error (.flaw .unicodeEscape (place.pos - 1))

/-- The code points of a string up to its closing quote, after the reversed code points `done`. The
opening quote stands at `start`. The two halves of a pair, in escapes that follow each other, are
one character; any other half stays as it is. -/
def readChars (start : Nat) : Nat → List CodePoint → Place → Except Fault (CodeText × Place)
  | 0, _, _ => .error (.flaw .unterminated start)
  | fuel + 1, done, place =>
    match place.rest with
    | [] => .error (.flaw .unterminated start)
    | '"' :: _ => .ok (⟨done.reverse⟩, place.drop 1)
    | ['\\'] => .error (.flaw .unterminated start)
    | '\\' :: 'u' :: _ => do
      let point := CodePoint.ofCode (← unicodeEscape (place.drop 2))
      match point, (place.drop 6).rest with
      | .high first, '\\' :: 'u' :: _ =>
        match CodePoint.ofCode (← unicodeEscape (place.drop 8)) with
        | .low second =>
          readChars start fuel (.char (CodePoint.ofHalves first second) :: done) (place.drop 12)
        | _ => readChars start fuel (point :: done) (place.drop 6)
      | _, _ => readChars start fuel (point :: done) (place.drop 6)
    | '\\' :: c :: _ =>
      match letterEscape? c with
      | some escaped => readChars start fuel (.char escaped :: done) (place.drop 2)
      | none => place.fails .escape
    | c :: rest =>
      if c.toNat < 32 then place.fails .control
      else readChars start fuel (.char c :: done) ⟨rest, place.pos + 1⟩

/-- A string, from after its opening quote. -/
def readString (place : Place) : Except Fault (CodeText × Place) :=
  readChars (place.pos - 1) (place.rest.length + 1) [] place

/-- Whether the character is one of the ten digits. -/
def isDigit (c : Char) : Bool := '0' ≤ c && c ≤ '9'

/-- The digits at the start of a text. -/
def leadingDigits (text : List Char) : List Char := text.takeWhile isDigit

/-- The fraction at the start of a text: a point and at least one digit. -/
def fractionDigits : List Char → List Char
  | '.' :: rest => leadingDigits rest
  | _ => []

/-- The exponent at the start of a text: sign and digits, and how many characters they take. Without
a digit there is none. -/
def exponentPart : List Char → Option (Int × Nat)
  | c :: rest =>
    if c == 'e' || c == 'E' then
      let (negative, signs, rest) := match rest with
        | '+' :: rest => (false, 1, rest)
        | '-' :: rest => (true, 1, rest)
        | rest => (false, 0, rest)
      let digits := leadingDigits rest
      if digits.isEmpty then none
      else
        let size : Int := Decimal.ofDigits 10 digits
        some (if negative then -size else size, 1 + signs + digits.length)
    else none
  | [] => none

/-- The digits before the point: a zero alone or a run that starts otherwise. -/
def wholeDigits : List Char → List Char
  | '0' :: _ => ['0']
  | rest => leadingDigits rest

/-- A number, from after its sign. `start` is its first place. -/
def readUnsigned (start : Place) (negative : Bool) (place : Place) :
    Except Fault (Json CodeText × Place) :=
  let whole := wholeDigits place.rest
  if whole.isEmpty then start.fails .wantsValue
  else
    let afterWhole := place.drop whole.length
    let fraction := fractionDigits afterWhole.rest
    let afterFraction :=
      if fraction.isEmpty then afterWhole else afterWhole.drop (fraction.length + 1)
    match exponentPart afterFraction.rest with
    | some (exponent, size) =>
      .ok (.float (Decimal.ofParts negative whole fraction exponent), afterFraction.drop size)
    | none =>
      if !fraction.isEmpty then
        .ok (.float (Decimal.ofParts negative whole fraction 0), afterFraction)
      else if whole.length > digitLimit then .error (.tooManyDigits whole.length)
      else
        let size : Int := Decimal.ofDigits 10 whole
        .ok (.int (if negative then -size else size), afterWhole)

/-- A number. -/
def readNumber (place : Place) : Except Fault (Json CodeText × Place) :=
  match place.rest with
  | '-' :: _ => readUnsigned place true (place.drop 1)
  | _ => readUnsigned place false place

/-- The values that are written as words. -/
def wordValues : List (List Char × Json CodeText) :=
  [(['n', 'u', 'l', 'l'], .null), (['t', 'r', 'u', 'e'], .bool true),
   (['f', 'a', 'l', 's', 'e'], .bool false), (['N', 'a', 'N'], .float Decimal.notNumber),
   ("Infinity".toList, .float (Decimal.infinity false)),
   ("-Infinity".toList, .float (Decimal.infinity true))]

/-- A value that is written as a word, or a number. -/
def readScalar (place : Place) : Except Fault (Json CodeText × Place) :=
  match wordValues.find? fun word => word.1.isPrefixOf place.rest with
  | some (word, value) => .ok (value, place.drop word.length)
  | none => readNumber place

mutual

/-- A value. -/
def readValue : Nat → Nat → Place → Except Fault (Json CodeText × Place)
  | 0, _, place => place.fails .wantsValue
  | fuel + 1, room, place =>
    match place.rest, room with
    | [], _ => place.fails .wantsValue
    | '"' :: _, _ => do
      let (value, after) ← readString (place.drop 1)
      return (.string value, after)
    | '[' :: _, 0 | '\x7b' :: _, 0 => .error .tooDeep
    | '[' :: _, room + 1 =>
      let inside := (place.drop 1).trimmed
      match inside.rest with
      | ']' :: _ => .ok (.array [], inside.drop 1)
      | _ => do
        let (items, after) ← readItems fuel room inside
        return (.array items, after)
    | '\x7b' :: _, room + 1 =>
      let inside := (place.drop 1).trimmed
      match inside.rest with
      | '\x7d' :: _ => .ok (.object [], inside.drop 1)
      | _ => do
        let (members, after) ← readMembers fuel room inside
        return (.object (distinct members), after)
    | _, _ => readScalar place

/-- The items of an array from the first one on, and the closing bracket. -/
def readItems : Nat → Nat → Place → Except Fault (List (Json CodeText) × Place)
  | 0, _, place => place.fails .wantsValue
  | fuel + 1, room, place => do
    let (item, after) ← readValue fuel room place
    let after := after.trimmed
    match after.rest with
    | ']' :: _ => return ([item], after.drop 1)
    | ',' :: _ =>
      let (items, last) ← readItems fuel room (after.drop 1).trimmed
      return (item :: items, last)
    | _ => after.fails .wantsComma

/-- The members of an object from the first one on, and the closing brace. -/
def readMembers : Nat → Nat → Place → Except Fault (Members CodeText × Place)
  | 0, _, place => place.fails .wantsKey
  | fuel + 1, room, place => do
    let (key, after) ← match place.rest with
      | '"' :: _ => readString (place.drop 1)
      | _ => place.fails .wantsKey
    let after := after.trimmed
    match after.rest with
    | ':' :: _ =>
      let (value, after) ← readValue fuel room (after.drop 1).trimmed
      let after := after.trimmed
      match after.rest with
      | '\x7d' :: _ => return ([(key, value)], after.drop 1)
      | ',' :: _ =>
        let (members, last) ← readMembers fuel room (after.drop 1).trimmed
        return ((key, value) :: members, last)
      | _ => after.fails .wantsComma
    | _ => after.fails .wantsColon

end

/-- The document a text holds, where the stack has room for so many levels. -/
def read (room : Nat) (text : List Char) : Except Fault (Json CodeText) :=
  if text.head? = some '\ufeff' then .error (.flaw .byteOrderMark 0)
  else do
    let (value, after) ← readValue (2 * text.length + 2) room (Place.trimmed ⟨text, 0⟩)
    let after := after.trimmed
    if after.rest.isEmpty then return value else after.fails .extraData

end ShellVet.Json
