import ShellVet.Text.Codes

/-!
# JSON documents

An object keeps its members in the order written. A key that comes again keeps its first place and
takes its last value; `put` is that rule, and `distinct` applies it to a whole list. Texts and keys
are of one kind for the whole document: plain texts, or texts of code points where a document is
read or written.
-/

namespace ShellVet

/-- A JSON document. Numbers without fraction and exponent are integers. -/
inductive Json (τ : Type := String) where
  | null
  | bool (value : Bool)
  | int (value : Int)
  | float (value : Float)
  | string (value : τ)
  | array (items : List (Json τ))
  | object (members : List (τ × Json τ))
  deriving Inhabited, Repr

namespace Json

/-- Members of an object in their order. -/
abbrev Members (τ : Type := String) := List (τ × Json τ)

section

variable {τ : Type} [DecidableEq τ]

/-- Sets the value of a key: in its place if the key is there, else at the end. -/
def put {α : Type} (key : τ) (value : α) : List (τ × α) → List (τ × α)
  | [] => [(key, value)]
  | (k, v) :: rest => if k = key then (k, value) :: rest else (k, v) :: put key value rest

/-- The members with each key once, at its first place and with its last value. -/
def distinct {α : Type} (members : List (τ × α)) : List (τ × α) :=
  members.foldl (fun done member => put member.1 member.2 done) []

/-- The value of a key of an object. -/
def get? : Json τ → τ → Option (Json τ)
  | .object members, key => members.lookup key
  | _, _ => none

end

variable {τ : Type}

/-- Whether the document is an object. -/
def isObject : Json τ → Bool
  | .object _ => true
  | _ => false

/-- Whether the document is null, false, zero or empty. -/
def isEmpty [Coded τ] : Json τ → Bool
  | .null => true
  | .bool value => !value
  | .int value => value == 0
  | .float value => value == 0.0
  | .string value => (Coded.points value).isEmpty
  | .array items => items.isEmpty
  | .object members => members.isEmpty

mutual

/-- How deep the document nests: one level for each array and object. -/
def depth : Json τ → Nat
  | .array items => 1 + depthOfItems items
  | .object members => 1 + depthOfMembers members
  | _ => 0

/-- The greatest depth of items. -/
def depthOfItems : List (Json τ) → Nat
  | [] => 0
  | item :: items => max item.depth (depthOfItems items)

/-- The greatest depth of the values of members. -/
def depthOfMembers : List (τ × Json τ) → Nat
  | [] => 0
  | (_, value) :: members => max value.depth (depthOfMembers members)

end

end Json

end ShellVet
