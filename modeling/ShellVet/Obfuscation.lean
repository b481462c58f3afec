import ShellVet.Signature.Basic
import ShellVet.Signature.Phrase

/-!
# Obfuscation

Ways of writing a command so that a reader or a filter does not recognise it. Each check stands for
itself, and all that match are reported. Checks that make sense only where the shell would expand
the text look at the command with its quoted regions blanked out.
-/

namespace ShellVet.Obfuscation

open Regex Phrase

/-- A way of hiding what a command does. -/
inductive Technique where
  | quoteSplitting
  | backslashSplitting
  | fieldSeparator
  | braceExpansion
  | escapes
  | base64Pipe
  | parameterManipulation
  | wildcardPath
  | emptyInsertion
  | reversal
  deriving DecidableEq, Repr

/-- The name of a technique in reports. -/
def Technique.name : Technique → String
  | .quoteSplitting => "Quote splitting"
  | .backslashSplitting => "Backslash character splitting"
  | .fieldSeparator => "IFS variable bypass"
  | .braceExpansion => "Brace expansion"
  | .escapes => "Hex/octal/unicode escape sequences"
  | .base64Pipe => "Base64 decode piping"
  | .parameterManipulation => "Parameter expansion manipulation"
  | .wildcardPath => "Wildcard path obfuscation"
  | .emptyInsertion => "Empty variable insertion"
  | .reversal => "String reversal"

/-- All techniques, in the order of reports. -/
def techniques : List Technique :=
  [.quoteSplitting, .backslashSplitting, .fieldSeparator, .braceExpansion, .escapes, .base64Pipe,
   .parameterManipulation, .wildcardPath, .emptyInsertion, .reversal]

/-- A letter of either case. -/
def letter : Regex := among [.range 'a' 'z', .range 'A' 'Z']

/-- A hexadecimal digit of either case. -/
def hexDigit : Regex := among [.range '0' '9', .range 'a' 'f', .range 'A' 'F']

/-- The start of the text, or behind white space, a separator, a parenthesis or a grave accent. -/
def atWordStart : Regex :=
  choice [opening, .behind true 1 (among (blankItem :: chars ";|&(\x60"))]

/-- A quote, remembered under a number. -/
def quote (index : Nat) : Regex := group index (oneOf "'\"")

/-- The quote remembered under a number. -/
def sameQuote (index : Nat) : Regex := .again .exact index

/-- Word characters between equal quotes. -/
def quotedWord (index : Nat) : Regex :=
  row [quote index, several wordChar, sameQuote index]

/-- The decoding command, with the flag that makes it decode. -/
def decoder : Regex :=
  row [spell "base64", gap, flags, anyOf ["-d", "-D", "--decode"], edge]

/-- The pattern of a technique. -/
def Technique.regex : Technique → Regex
  | .quoteSplitting =>
    choice
      [row [atWordStart, several wordChar, quotedWord 1],
       row [atWordStart, quotedWord 2, quotedWord 3],
       row [atWordStart, several wordChar, quote 4, sameQuote 4, wordChar]]
  | .backslashSplitting =>
    choice [row [letter, spell "\\", letter], row [commandStart, spell "\\", letter]]
  | .fieldSeparator =>
    row [spell "$", maybe (spell "\x7b"), spell "IFS", maybe (spell "\x7d")]
  | .braceExpansion =>
    let inner := chars "\x7b\x7d" ++ [blankItem]
    row [.behind false 1 (spell "$"), spell "\x7b", many (besides (inner ++ [.char ','])),
      spell ",",
      many (besides inner), spell "\x7d"]
  | .escapes =>
    choice
      [row [spell "\\x", times 2 hexDigit], row [spell "\\", times 3 (among [.range '0' '7'])],
       row [spell "\\u", times 4 hexDigit], row [spell "\\U", times 8 hexDigit]]
  | .base64Pipe =>
    choice
      [row [spell "|", room, decoder],
       row [edge, decoder, many (noneOf "|"), spell "|"]]
  | .parameterManipulation =>
    let toBrace := many (noneOf "\x7d")
    choice
      [row
        [spell "$\x7b", several wordChar,
         choice
          [row [spell ":", maybe blank, maybe (spell "-"), digit],
           row [spell "/", maybe (spell "/"), toBrace, spell "/"],
           row [spell "#", maybe (spell "#")],
           row [spell "%", maybe (spell "%")],
           spell "^", spell ","],
         toBrace, spell "\x7d"],
       row [spell "$\x7b!", several wordChar, spell "\x7d"]]
  | .wildcardPath =>
    let part := among (wordItem :: chars ".*[]-")
    let plain := among (wordItem :: chars ".-")
    choice
      [row
        [commandStart, spell "/", many (row [many part, spell "/"]), many part, spell "?",
         many (among (wordItem :: chars ".?*[]-"))],
       row [commandStart, spell "/", many plain, spell "*", many plain, spell "/"]]
  | .emptyInsertion =>
    let nothing := anyOf ["()", "\x7b\x7d"]
    choice
      [row [wordChar, spell "$", anyOf ["()", "\x7b\x7d", "@", "*"], wordChar],
       row [wordChar, spell "$", nothing],
       row [spell "$", nothing, wordChar]]
  | .reversal => row [spell "|", room, spell "rev", edge]

/-- Whether the technique is looked for outside of quotes only. -/
def Technique.outsideQuotes : Technique → Bool
  | .backslashSplitting | .braceExpansion | .wildcardPath => true
  | _ => false

/-- A region between quotes. -/
def quotedRegion : Regex :=
  choice
    [row [spell "'", many (noneOf "'"), spell "'"],
     row [spell "\"", many (choice [noneOf "\"\\", row [spell "\\", dot]]), spell "\""]]

/-- The text with each quoted region replaced by a blank. -/
def withoutQuoted (text : List Char) : List Char :=
  quotedRegion.replace [' '] text

/-- Whether a technique is used in a command. -/
def Technique.usedIn (command : String) (technique : Technique) : Bool :=
  let text := command.toList
  technique.regex.occursIn (if technique.outsideQuotes then withoutQuoted text else text)

/-- The techniques used in a command. -/
def detect (command : String) : List Technique :=
  techniques.filter (·.usedIn command)

/-- Whether a command uses a technique. -/
def isObfuscated (command : String) : Bool :=
  !(detect command).isEmpty

end ShellVet.Obfuscation
