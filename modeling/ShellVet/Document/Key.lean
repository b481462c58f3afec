import ShellVet.Decimal.Binary
import ShellVet.Document.Basic

/-!
# Keys of mappings

Keys that stand for the same number are one key, whichever kind of number they are, and so are equal
texts, days and points in time.
-/

namespace ShellVet

namespace Document

/-- An exact number: a numerator over a power of two, or something that is not finite. -/
inductive Exact where
  | ratio (numerator : Int) (scale : Nat)
  | infinite (negative : Bool)
  | notNumber

/-- The exact value of a number of double precision. -/
def exactFloat (value : Float) : Exact :=
  match Decimal.decode value with
  | (_, .notNumber) => .notNumber
  | (negative, .infinite) => .infinite negative
  | (negative, .finite significand exponent) =>
    let signed : Int := if negative then -significand else significand
    match exponent with
    | .ofNat k => .ratio (signed * Nat.pow 2 k) 0
    | .negSucc k => .ratio signed (k + 1)

/-- The exact value of a document that counts as a number. -/
def exactValue? : Document → Option Exact
  | .bool value => some (.ratio (if value then 1 else 0) 0)
  | .int value => some (.ratio value 0)
  | .float value => some (exactFloat value)
  | _ => none

/-- Whether two exact numbers are the same. -/
def Exact.same : Exact → Exact → Bool
  | .ratio a i, .ratio b j => a * Nat.pow 2 j == b * Nat.pow 2 i
  | .infinite a, .infinite b => a == b
  | .notNumber, .notNumber => true
  | _, _ => false

/-- Whether two documents are the same key. -/
def sameKey (a b : Document) : Bool :=
  match exactValue? a, exactValue? b with
  | some x, some y => x.same y
  | none, none =>
    match a, b with
    | .null, .null => true
    | .text x, .text y => x == y
    | .bytes x, .bytes y => x == y
    | .date x, .date y => x == y
    | .moment x, .moment y => x.offset.isSome == y.offset.isSome && x.microseconds == y.microseconds
    | _, _ => false
  | _, _ => false

/-- Sets the value of a key: in its place if the key is there, else at the end. -/
def put {α : Type} (key : Document) (value : α) : List (Document × α) → List (Document × α)
  | [] => [(key, value)]
  | (k, v) :: rest => if sameKey k key then (k, value) :: rest else (k, v) :: put key value rest

/-- The members with each key once, at its first place and with its last value. -/
def distinct {α : Type} (members : List (Document × α)) : List (Document × α) :=
  members.foldl (fun done member => put member.1 member.2 done) []

end Document

end ShellVet
