import ShellVet.Json.Basic
import ShellVet.Text.Case

/-!
# Spellings of keys

A key of several words is spelled with low lines between the words, or with a capital at the start
of each word after the first. `toCamel` and `toSnake` go from one spelling to the other, and
`camelized` respells all keys of a document.
-/

namespace ShellVet.Json

/-- Whether the character is one of the 26 small letters. -/
def isSmall (c : Char) : Bool := 'a' ≤ c && c ≤ 'z'

/-- Whether the character is one of the 26 capital letters. -/
def isCapital (c : Char) : Bool := 'A' ≤ c && c ≤ 'Z'

/-- Drops each low line before a small letter and makes the letter a capital. -/
def toCamelChars : List Char → List Char
  | '_' :: c :: rest =>
    if isSmall c then c.toUpper :: toCamelChars rest else '_' :: toCamelChars (c :: rest)
  | c :: rest => c :: toCamelChars rest
  | [] => []

/-- The key with capitals at the start of words. -/
def toCamel (key : String) : String :=
  String.ofList (toCamelChars key.toList)

/-- Puts a low line between a small letter or digit and a capital. -/
def splitCapitals : List Char → List Char
  | a :: b :: rest =>
    if (isSmall a || a.isDigit) && isCapital b then a :: '_' :: splitCapitals (b :: rest)
    else a :: splitCapitals (b :: rest)
  | rest => rest

/-- The key with low lines between words, in lower case. -/
def toSnake (key : String) : String :=
  String.ofList (Text.lower (splitCapitals key.toList))

mutual

/-- The document with all keys in camel case. Of keys that become the same, the last one counts. -/
def camelized : Json → Json
  | .object members => .object (distinct (camelizedMembers members))
  | .array items => .array (camelizedItems items)
  | value => value

/-- The items of an array with all keys in camel case. -/
def camelizedItems : List Json → List Json
  | [] => []
  | item :: items => item.camelized :: camelizedItems items

/-- The members of an object with all keys in camel case. -/
def camelizedMembers : List (String × Json) → List (String × Json)
  | [] => []
  | (key, value) :: members => (toCamel key, value.camelized) :: camelizedMembers members

end

end ShellVet.Json
