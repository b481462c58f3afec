import ShellVet.Decimal.Shortest
import ShellVet.Json.Basic
import ShellVet.Stack
import ShellVet.Text.Quoted

/-!
# Values inside messages

Messages show a value in a notation of their own: texts between quotes, `None` for null, `True` and
`False` for the truth values. `limit?` says what stands in the way of showing a value, if anything
does.
-/

namespace ShellVet.Json

variable {τ : Type}

section

variable [Coded τ]

mutual

/-- A value inside a message. -/
def shown : Json τ → String
  | .null => "None"
  | .bool true => "True"
  | .bool false => "False"
  | .int value => toString value
  | .float value => Decimal.text value
  | .string value => Text.quoted value
  | .array items => "[" ++ ", ".intercalate (shownItems items) ++ "]"
  | .object members => "\x7b" ++ ", ".intercalate (shownMembers members) ++ "\x7d"

/-- The items of an array. -/
def shownItems : List (Json τ) → List String
  | [] => []
  | item :: items => item.shown :: shownItems items

/-- The members of an object. -/
def shownMembers : List (τ × Json τ) → List String
  | [] => []
  | (key, value) :: members => (Text.quoted key ++ ": " ++ value.shown) :: shownMembers members

end

end

mutual

/-- What a value is too much for, where so many levels can be shown; the first of several counts. -/
def limit? : Nat → Json τ → Option Limit
  | _, .int value => if isOverlong value then some .digits else none
  | 0, .array _ | 0, .object _ => some .depth
  | room + 1, .array items => limitOfItems? room items
  | room + 1, .object members => limitOfMembers? room members
  | _, _ => none

/-- What the items of an array are too much for. -/
def limitOfItems? : Nat → List (Json τ) → Option Limit
  | _, [] => none
  | room, item :: items => item.limit? room <|> limitOfItems? room items

/-- What the members of an object are too much for. -/
def limitOfMembers? : Nat → List (τ × Json τ) → Option Limit
  | _, [] => none
  | room, (_, value) :: members => value.limit? room <|> limitOfMembers? room members

end

end ShellVet.Json
