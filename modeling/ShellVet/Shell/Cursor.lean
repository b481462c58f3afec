/-!
# A place in a command line

A cursor holds the characters still to come and how many went before. The text always ends with a
line end. A backslash before a line end joins the two lines: reading with `joining` drops the pair.
-/

namespace ShellVet.Shell

/-- The characters still to come and the number of those before them. -/
structure Cursor where
  rest : List Char
  pos : Nat
  deriving Repr

/-- Reads one character from the rest of a text. -/
def Cursor.nextFrom (joining : Bool) : List Char → Nat → Option Char × Cursor
  | [], pos => (none, ⟨[], pos⟩)
  | '\\' :: '\n' :: rest, pos =>
    if joining then nextFrom joining rest (pos + 2) else (some '\\', ⟨'\n' :: rest, pos + 1⟩)
  | c :: rest, pos => (some c, ⟨rest, pos + 1⟩)

/-- Reads one character; `none` at the end of the text. -/
def Cursor.next (joining : Bool) (place : Cursor) : Option Char × Cursor :=
  nextFrom joining place.rest place.pos

/-- Takes back the character just read. At the end of the text this is the line end that closes
it. -/
def Cursor.back (place : Cursor) : Option Char → Cursor
  | some c => ⟨c :: place.rest, place.pos - 1⟩
  | none => if place.pos = 0 then place else ⟨['\n'], place.pos - 1⟩

/-- Skips to the line end, which stays the next character. -/
def Cursor.toLineEnd (place : Cursor) : Cursor :=
  let skipped := place.rest.takeWhile (· ≠ '\n')
  ⟨place.rest.dropWhile (· ≠ '\n'), place.pos + skipped.length⟩

/-- Reads one line with joining; `none` where the text ends before a line end. The line comes
without its end. -/
def Cursor.lineFrom : List Char → Nat → Option (List Char × Cursor)
  | [], _ => none
  | '\\' :: '\n' :: rest, pos => lineFrom rest (pos + 2)
  | '\n' :: rest, pos => some ([], ⟨rest, pos + 1⟩)
  | c :: rest, pos => (lineFrom rest (pos + 1)).map fun (line, after) => (c :: line, after)

/-- Reads one line. -/
def Cursor.line (place : Cursor) : Option (List Char × Cursor) :=
  lineFrom place.rest place.pos

/-- Characters that end a word. -/
def isBreak (c : Char) : Bool :=
  c ∈ ['(', ')', '<', '>', ';', '&', '|', ' ', '\t', '\n']

/-- Characters that start an operator. -/
def isMeta (c : Char) : Bool :=
  c ∈ ['(', ')', '<', '>', ';', '&', '|']

/-- Characters that separate words and mean nothing else. -/
def isSpace (c : Char) : Bool :=
  c ∈ [' ', '\t']

/-- The grave accent, the old quote of command substitutions. -/
def grave : Char := '\x60'

/-- Characters that open quoted text. -/
def isQuote (c : Char) : Bool :=
  c ∈ ['"', grave, '\'']

end ShellVet.Shell
