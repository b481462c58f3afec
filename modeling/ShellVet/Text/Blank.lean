import ShellVet.Text.Ranges

/-!
# White space

The characters that separate words in running text, and the two operations that rest on them:
trimming a text and splitting it into words.
-/

namespace ShellVet.Text

/-- Code points of white space: the controls that move the cursor, the four separators of the C0
range, next line, and the space characters of every script. -/
def blankRanges : Ranges :=
  [(9, 13), (28, 32), (133, 133), (160, 160), (5760, 5760), (8192, 8202), (8232, 8233),
   (8239, 8239), (8287, 8287), (12288, 12288)]

/-- Whether the character is white space. -/
def isBlank (c : Char) : Bool :=
  blankRanges.has c.toNat

/-- The text without white space at either end. -/
def trim (text : List Char) : List Char :=
  ((text.dropWhile isBlank).reverse.dropWhile isBlank).reverse

/-- The first run of characters other than white space; empty for a blank text. -/
def firstWord (text : List Char) : List Char :=
  (text.dropWhile isBlank).takeWhile fun c => !isBlank c

/-- Whether the text holds white space only. -/
def isBlankText (text : List Char) : Bool :=
  text.all isBlank

end ShellVet.Text
