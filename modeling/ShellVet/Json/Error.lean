import ShellVet.Stack

/-!
# Why a text is not JSON

An error names what was wanted and where. Places count characters from the start of the text; lines
and columns count from one.
-/

namespace ShellVet.Json

/-- What is wrong at a place. -/
inductive Flaw where
  | byteOrderMark
  | wantsValue
  | wantsKey
  | wantsColon
  | wantsComma
  | extraData
  | unterminated
  | control
  | escape
  | unicodeEscape
  deriving DecidableEq, Repr

/-- The wording of a flaw. -/
def Flaw.message : Flaw → String
  | .byteOrderMark => "Unexpected UTF-8 BOM (decode using utf-8-sig)"
  | .wantsValue => "Expecting value"
  | .wantsKey => "Expecting property name enclosed in double quotes"
  | .wantsColon => "Expecting ':' delimiter"
  | .wantsComma => "Expecting ',' delimiter"
  | .extraData => "Extra data"
  | .unterminated => "Unterminated string starting at"
  | .control => "Invalid control character at"
  | .escape => "Invalid \\escape"
  | .unicodeEscape => "Invalid \\uXXXX escape"

/-- Why a text is not read. -/
inductive Fault where
  | flaw (kind : Flaw) (pos : Nat)
  /-- An integer of more digits than are converted. -/
  | tooManyDigits (count : Nat)
  /-- Arrays and objects nested deeper than the stack goes. -/
  | tooDeep
  deriving DecidableEq, Repr

/-- Line and column of a place. -/
def lineAndColumn (text : List Char) (pos : Nat) : Nat × Nat :=
  (text.take pos).foldl
    (fun (line, column) c => if c == '\n' then (line + 1, 1) else (line, column + 1)) (1, 1)

/-- The wording of a fault in a text. -/
def Fault.message (text : List Char) : Fault → String
  | .flaw kind pos =>
    let (line, column) := lineAndColumn text pos
    s!"{kind.message}: line {line} column {column} (char {pos})"
  | .tooManyDigits count =>
    s!"Exceeds the limit ({digitLimit} digits) for integer string conversion: " ++
      s!"value has {count} digits; use sys.set_int_max_str_digits() to increase the limit"
  | .tooDeep => "maximum recursion depth exceeded"

end ShellVet.Json
