import ShellVet.Regex.Basic

/-!
# Phrases of signatures

The pieces that signatures are put together from: texts, sets, gaps between words and flags.
-/

namespace ShellVet.Phrase

open Regex

/-- One character of a set. -/
def among (items : List CharItem) : Regex :=
  .one { items }

/-- One character outside of a set. -/
def besides (items : List CharItem) : Regex :=
  .one { items, negated := true }

/-- The characters of a text as entries of a set. -/
def chars (text : String) : List CharItem :=
  text.toList.map .char

/-- One of the characters. -/
def oneOf (text : String) : Regex := among (chars text)

/-- None of the characters. -/
def noneOf (text : String) : Regex := besides (chars text)

/-- The text, letter by letter. -/
def spell (text : String) : Regex :=
  row (text.toList.map fun c => among [.char c])

/-- One of the texts. -/
def anyOf (texts : List String) : Regex :=
  choice (texts.map spell)

/-- The class of word characters as an entry of a set. -/
def wordItem : CharItem := .class .word false false

/-- The class of white space as an entry of a set. -/
def blankItem : CharItem := .class .blank false false

/-- A word character. -/
def wordChar : Regex := among [wordItem]

/-- A white space character. -/
def blank : Regex := among [blankItem]

/-- Anything but white space. -/
def ink : Regex := among [.class .blank false true]

/-- A decimal digit. -/
def digit : Regex := among [.class .digit false false]

/-- Any character but a line end. -/
def dot : Regex := besides [.char '\n']

/-- The lower case letters as an entry of a set. -/
def letterItem : CharItem := .range 'a' 'z'

/-- White space, at least one character. -/
def gap : Regex := several blank

/-- White space, if there is some. -/
def room : Regex := many blank

/-- The edge of a word. -/
def edge : Regex := .anchor (.wordEdge false false)

/-- The start of the text. -/
def opening : Regex := .anchor .textStart

/-- The end of the text, or before a line end that ends it. -/
def ending : Regex := .anchor .lastLineEnd

/-- The start of the text or one character of a set. -/
def after (items : List CharItem) : Regex :=
  choice [opening, among items]

/-- Where a command may start: after white space, a separator, a pipe or a parenthesis. -/
def commandStart : Regex := after (blankItem :: chars ";|&(")

/-- White space or the end. -/
def wordEnd : Regex := choice [blank, ending]

/-- Words in a row, each followed by white space. -/
def words (word : Regex) : Regex := many (row [word, gap])

/-- Flags of word characters, each followed by white space. -/
def flags : Regex := words (row [spell "-", several wordChar])

/-- Flags of any characters, each followed by white space. -/
def anyFlags : Regex := words (row [spell "-", several ink])

/-- Flags of letters, each followed by white space. -/
def letterFlags : Regex := words (row [spell "-", several (among [letterItem])])

end ShellVet.Phrase
