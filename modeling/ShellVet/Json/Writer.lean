import ShellVet.Decimal.Shortest
import ShellVet.Json.Basic
import ShellVet.Text.Quoted

/-!
# Writing JSON

All text is written in ASCII. A document goes on one line (`line`), or on one line for each item and
member, indented by two blanks for each level (`lines`).
-/

namespace ShellVet.Json

/-- A code of sixteen bits as an escape. -/
def codeEscape (code : Nat) : List Char :=
  '\\' :: 'u' :: Text.hexDigits 4 code

/-- One character of a string. -/
def escapeChar (c : Char) : List Char :=
  if c == '"' then ['\\', '"']
  else if c == '\\' then ['\\', '\\']
  else if c == '\n' then ['\\', 'n']
  else if c == '\r' then ['\\', 'r']
  else if c == '\t' then ['\\', 't']
  else if c == '\x08' then ['\\', 'b']
  else if c == '\x0c' then ['\\', 'f']
  else if 32 ≤ c.toNat && c.toNat < 127 then [c]
  else if c.toNat < 0x10000 then codeEscape c.toNat
  else
    let code := c.toNat - 0x10000
    codeEscape (0xd800 + code / 0x400) ++ codeEscape (0xdc00 + code % 0x400)

/-- One code point of a string. -/
def escapePoint : CodePoint → List Char
  | .char c => escapeChar c
  | half => codeEscape half.code

/-- A string between its quotes. -/
def stringText {τ : Type} [Coded τ] (value : τ) : List Char :=
  '"' :: (Coded.points value).flatMap escapePoint ++ ['"']

/-- A number with fraction or exponent. -/
def floatText (value : Float) : List Char :=
  match Decimal.decode value with
  | (_, .notNumber) => ['N', 'a', 'N']
  | (false, .infinite) => "Infinity".toList
  | (true, .infinite) => "-Infinity".toList
  | _ => (Decimal.text value).toList

/-- How the items of a container are set apart: before the first, between two, and after the last,
each for the level the container is at. -/
structure Layout where
  opening : Nat → List Char
  between : Nat → List Char
  closing : Nat → List Char

/-- Everything on one line. -/
def Layout.oneLine : Layout :=
  ⟨fun _ => [], fun _ => [',', ' '], fun _ => []⟩

/-- A line end and two blanks for each level. -/
def lineBreak (level : Nat) : List Char :=
  '\n' :: List.replicate (2 * level) ' '

/-- One line for each item. -/
def Layout.manyLines : Layout :=
  ⟨fun level => lineBreak (level + 1), fun level => ',' :: lineBreak (level + 1), lineBreak⟩

variable {τ : Type} [Coded τ]

mutual

/-- Writes a document at a level. -/
def write (layout : Layout) (level : Nat) : Json τ → List Char
  | .null => ['n', 'u', 'l', 'l']
  | .bool true => ['t', 'r', 'u', 'e']
  | .bool false => ['f', 'a', 'l', 's', 'e']
  | .int value => (toString value).toList
  | .float value => floatText value
  | .string value => stringText value
  | .array [] => ['[', ']']
  | .array (item :: items) =>
    '[' :: layout.opening level ++ write layout (level + 1) item ++
      writeItems layout level items ++ layout.closing level ++ [']']
  | .object [] => ['\x7b', '\x7d']
  | .object ((key, value) :: members) =>
    '\x7b' :: layout.opening level ++ stringText key ++ [':', ' '] ++
      write layout (level + 1) value ++ writeMembers layout level members ++
      layout.closing level ++ ['\x7d']

/-- Writes further items of an array at a level. -/
def writeItems (layout : Layout) (level : Nat) : List (Json τ) → List Char
  | [] => []
  | item :: items =>
    layout.between level ++ write layout (level + 1) item ++ writeItems layout level items

/-- Writes further members of an object at a level. -/
def writeMembers (layout : Layout) (level : Nat) : List (τ × Json τ) → List Char
  | [] => []
  | (key, value) :: members =>
    layout.between level ++ stringText key ++ [':', ' '] ++ write layout (level + 1) value ++
      writeMembers layout level members

end

/-- The document on one line. -/
def line (document : Json τ) : String :=
  String.ofList (write .oneLine 0 document)

/-- The document with one line for each item and member. -/
def lines (document : Json τ) : String :=
  String.ofList (write .manyLines 0 document)

end ShellVet.Json
