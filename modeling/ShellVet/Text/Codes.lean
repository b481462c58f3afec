/-!
# Code points

A text inside a JSON or YAML document is a row of code points. Nearly all of them are characters. An
escape can also write one half of a surrogate pair without the other; such a half is kept as it is,
can be escaped again, and stands in no file and on no screen by itself.
-/

namespace ShellVet

/-- A code point: a character, or the first or the second half of a surrogate pair. -/
inductive CodePoint where
  | char (c : Char)
  | high (index : Fin 0x400)
  | low (index : Fin 0x400)
  deriving DecidableEq, Repr

namespace CodePoint

/-- The number of a code point. -/
def code : CodePoint → Nat
  | .char c => c.toNat
  | .high index => 0xd800 + index
  | .low index => 0xdc00 + index

/-- The code point of a number. -/
def ofCode (code : Nat) : CodePoint :=
  if first : 0xd800 ≤ code ∧ code < 0xdc00 then .high ⟨code - 0xd800, by omega⟩
  else if second : 0xdc00 ≤ code ∧ code < 0xe000 then .low ⟨code - 0xdc00, by omega⟩
  else .char (Char.ofNat code)

/-- The character that two halves spell. -/
def ofHalves (first second : Fin 0x400) : Char :=
  Char.ofNat (0x10000 + first * 0x400 + second)

/-- The character that a code point is. -/
def char? : CodePoint → Option Char
  | .char c => some c
  | _ => none

/-- The code point as a character; halves become the replacement character. -/
def legible : CodePoint → Char
  | .char c => c
  | _ => '\ufffd'

/-- Code points with each first half and the second half behind it as one character. -/
def joined : List CodePoint → List CodePoint
  | .high first :: .low second :: rest => .char (ofHalves first second) :: joined rest
  | point :: rest => point :: joined rest
  | [] => []

end CodePoint

/-- A text of code points. -/
structure CodeText where
  points : List CodePoint
  deriving DecidableEq, Repr

/-- Kinds of texts, as rows of code points. -/
class Coded (τ : Type) where
  points : τ → List CodePoint

instance : Coded CodeText := ⟨CodeText.points⟩

instance : Coded String := ⟨fun text => text.toList.map .char⟩

/-- The text of characters that a text is, if it holds no halves. -/
def Coded.string? {τ : Type} [Coded τ] (text : τ) : Option String :=
  ((points text).mapM CodePoint.char?).map String.ofList

namespace CodeText

/-- A text of characters. -/
def ofChars (text : List Char) : CodeText := ⟨text.map .char⟩

@[inherit_doc ofChars]
def ofString (text : String) : CodeText := .ofChars text.toList

instance : Coe String CodeText := ⟨ofString⟩

/-- The text with all surrogate pairs as characters. -/
def joined (text : CodeText) : CodeText := ⟨CodePoint.joined text.points⟩

/-- The characters of a text, with the replacement character for each half. -/
def legible (text : CodeText) : List Char := text.points.map CodePoint.legible

end CodeText

end ShellVet
