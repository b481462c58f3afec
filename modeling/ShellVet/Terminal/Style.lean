import ShellVet.Decimal.Read
import ShellVet.Terminal.ColorNames
import ShellVet.Text.Blank
import ShellVet.Text.Case
import ShellVet.Text.Class

/-!
# Normal forms of styles

A style is a row of words: attributes, a colour, a colour behind `on`, and a link. The order of the
words and the choice between a word and its short form mean nothing, so two styles are the same if
their normal forms are: attributes in a fixed order, then the colour, then the background, then the
link. What is not a style stays as it is, trimmed and in lower case.

A colour of three parts, `rgb(1,2,3)`, is taken apart before its parts are read as numbers. A part
that is none, because it is empty or has too many digits, is not told from a failure of the program:
it breaks off whatever reads the style.
-/

namespace ShellVet.Terminal

/-- The words for each attribute, in the order of normal forms. The first word is the full one. -/
def attributeWords : List (List String) :=
  [["bold", "b"], ["dim", "d"], ["italic", "i"], ["underline", "u"], ["blink"], ["blink2"],
   ["reverse", "r"], ["conceal", "c"], ["strike", "s"], ["underline2", "uu"], ["frame"],
   ["encircle"], ["overline", "o"]]

/-- The full word of an attribute. -/
def attributeOf? (word : String) : Option String :=
  (attributeWords.find? fun words => words.contains word).bind List.head?

/-- Whether digits, which may be of any script, spell a number of one byte. -/
def isByte (digits : List Char) : Bool :=
  digits.foldl (fun n c => n * 10 + Text.decimalValue c) 0 < 256

/-- What stands between an opening text and a closing parenthesis. -/
def argumentOf? (opening : String) (word : List Char) : Option (List Char) :=
  if opening.toList.isPrefixOf word && word.getLast? == some ')' then
    some ((word.drop opening.length).dropLast)
  else none

/-- Whether the word is a colour by its six hexadecimal digits. -/
def isHexColor : List Char → Bool
  | '#' :: digits =>
    digits.length == 6 && digits.all fun c => (Decimal.digitValue? c).any (· < 16)
  | _ => false

/-- Whether the word is a colour by its number. -/
def isNumberedColor (word : List Char) : Bool :=
  (argumentOf? "color(" word).any fun digits =>
    !digits.isEmpty && digits.length ≤ 3 && digits.all Char.isDigit && isByte digits

/-- The three parts of a colour that is mixed of them: digits with commas between them. -/
def mixedParts? (word : List Char) : Option (List (List Char)) := do
  let argument ← argumentOf? "rgb(" word
  let parts := argument.splitOn ','
  if (argument.all fun c => Text.isDecimal c || c == ',') && parts.length == 3 then some parts
  else none

/-- Most digits of a part of a colour. -/
def partLimit : Nat := 4300

/-- Whether a part of a colour is no number: it is empty, or has too many digits. -/
def isBrokenPart (part : List Char) : Bool := part.isEmpty || partLimit < part.length

/-- Why words are no style. -/
inductive StyleFault where
  /-- A word means nothing where it stands. -/
  | unknown
  /-- A part of a colour is no number. -/
  | brokenColor
  deriving DecidableEq, Repr

/-- The name of a colour in lower case. -/
def colorOf (word : String) : Except StyleFault String :=
  let name := Text.lower word.toList
  let text := String.ofList name
  if text == "default" || colorNames.contains text || isHexColor name || isNumberedColor name then
    .ok text
  else match mixedParts? name with
    | none => .error .unknown
    | some parts =>
      if parts.any isBrokenPart then .error .brokenColor
      else if parts.all isByte then .ok text
      else .error .unknown

/-- A style. -/
structure Style where
  /-- Attributes by their full words, each with whether it is switched on. -/
  attributes : List (String × Bool) := []
  color : Option String := none
  background : Option String := none
  link : Option String := none
  deriving DecidableEq, Repr

namespace Style

/-- Switches an attribute on or off. -/
def switch (style : Style) (effect : String) (on : Bool) : Style :=
  { style with
    attributes := (style.attributes.filter fun old => old.1 != effect) ++ [(effect, on)] }

/-- Adds words to a style. -/
def read (style : Style) : List String → Except StyleFault Style
  | [] => .ok style
  | word :: rest =>
    let name := String.ofList (Text.lower word.toList)
    if name == "on" || name == "not" || name == "link" then
      match rest with
      | [] => .error .unknown
      | next :: rest =>
        if name == "on" then
          match colorOf next with
          | .ok color => read { style with background := some color } rest
          | .error fault => .error fault
        else if name == "not" then
          match attributeOf? next with
          | some effect => read (style.switch effect false) rest
          | none => .error .unknown
        else read { style with link := some next } rest
    else match attributeOf? name with
      | some effect => read (style.switch effect true) rest
      | none =>
        match colorOf word with
        | .ok color => read { style with color := some color } rest
        | .error fault => .error fault

/-- The words of a style in normal form. -/
def words (style : Style) : List String :=
  let attributes := (attributeWords.filterMap List.head?).filterMap fun effect =>
    (style.attributes.lookup effect).map fun on => if on then effect else "not " ++ effect
  attributes ++ style.color.toList ++
    (style.background.map fun color => "on " ++ color).toList ++
    (style.link.map fun link => "link " ++ link).toList

/-- The normal form of a style that changes nothing. -/
def plain : String := "none"

/-- A style in normal form. -/
def text (style : Style) : String :=
  match style.words with
  | [] => plain
  | words => " ".intercalate words

end Style

/-- The words of a text, from a word on whose reversed start is `word`. -/
def wordsFrom (word : List Char) : List Char → List (List Char)
  | [] => if word.isEmpty then [] else [word.reverse]
  | c :: rest =>
    if Text.isBlank c then
      if word.isEmpty then wordsFrom [] rest else word.reverse :: wordsFrom [] rest
    else wordsFrom (c :: word) rest

/-- The style of a text. -/
def styleOf (text : List Char) : Except StyleFault Style :=
  if Text.trim text == Style.plain.toList then .ok {}
  else Style.read {} ((wordsFrom [] text).map String.ofList)

/-- Whether reading the style of a text breaks off. -/
def breaksOff (text : List Char) : Bool :=
  match styleOf text with
  | .error .brokenColor => true
  | _ => false

/-- The normal form of the name of a tag. -/
def normalName (name : List Char) : String :=
  match styleOf name with
  | .ok style => style.text
  | .error _ => String.ofList (Text.lower (Text.trim name))

end ShellVet.Terminal
