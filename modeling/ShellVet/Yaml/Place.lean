/-!
# Places in a YAML text

A place knows the characters still to come, how many went before, and its line and column, on which
the structure of a document hangs. Beyond the end of the text stands the character zero, which no
text holds.
-/

namespace ShellVet.Yaml

/-- A place in a text. -/
structure Place where
  rest : List Char
  index : Nat := 0
  line : Nat := 0
  column : Nat := 0

/-- The character beyond the end of the text. -/
def endChar : Char := '\x00'

/-- A character that ends a line. -/
def isBreak (c : Char) : Bool :=
  c == '\n' || c == '\r' || c == '\x85' || c == '\u2028' || c == '\u2029'

/-- The end of a line or of the text. -/
def isLineEnd (c : Char) : Bool := c == endChar || isBreak c

/-- A blank, or the end of a line or of the text. -/
def isBlankEnd (c : Char) : Bool := c == ' ' || isLineEnd c

/-- A blank or a tab, or the end of a line or of the text. -/
def isGapEnd (c : Char) : Bool := c == '\t' || isBlankEnd c

/-- A blank or a tab. -/
def isGap (c : Char) : Bool := c == ' ' || c == '\t'

namespace Place

/-- The character that comes after `count` others. -/
def look (place : Place) (count : Nat) : Char := (place.rest[count]?).getD endChar

/-- The next character. -/
def next (place : Place) : Char := place.rest.head?.getD endChar

/-- The place after the next character. A byte order mark has no width. -/
def step (place : Place) : Place :=
  match place.rest with
  | [] => place
  | c :: rest =>
    let newLine := c != '\r' && isBreak c || c == '\r' && rest.head? != some '\n'
    if newLine then ⟨rest, place.index + 1, place.line + 1, 0⟩
    else ⟨rest, place.index + 1, place.line, place.column + if c == '\ufeff' then 0 else 1⟩

/-- The place after some characters. -/
def steps (place : Place) : Nat → Place
  | 0 => place
  | count + 1 => place.step.steps count

/-- The characters of a kind that come next. -/
def ahead (place : Place) (kind : Char → Bool) : List Char := place.rest.takeWhile kind

/-- The place after the characters of a kind. -/
def skip (place : Place) (kind : Char → Bool) : Place :=
  place.steps (place.ahead kind).length

/-- The place after blanks. -/
def skipBlanks (place : Place) : Place := place.skip (· == ' ')

/-- The place at the end of the line. -/
def skipLine (place : Place) : Place := place.skip fun c => !isBreak c

/-- The line break that comes next, as it counts in values, and the place after it; nothing where
there is none. -/
def lineBreak (place : Place) : List Char × Place :=
  let c := place.next
  if c == '\r' && place.look 1 == '\n' then (['\n'], place.steps 2)
  else if c == '\r' || c == '\n' || c == '\x85' then (['\n'], place.step)
  else if c == '\u2028' || c == '\u2029' then ([c], place.step)
  else ([], place)

/-- Whether three equal characters come next, and then a blank, a tab or an end. -/
def marks (place : Place) (c : Char) : Bool :=
  [c, c, c].isPrefixOf place.rest && isGapEnd (place.look 3)

/-- Whether a mark between documents comes next. -/
def separates (place : Place) : Bool := place.marks '-' || place.marks '.'

end Place

/-- Whether a text holds only characters that documents may hold. -/
def isAllowed (c : Char) : Bool :=
  let code := c.toNat
  code == 9 || code == 10 || code == 13 || (32 ≤ code && code ≤ 126) || code == 0x85 ||
    (0xa0 ≤ code && code ≤ 0xd7ff) || (0xe000 ≤ code && code ≤ 0xfffd) || 0x10000 ≤ code

end ShellVet.Yaml
