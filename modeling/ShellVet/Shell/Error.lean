import ShellVet.Text.Quoted

/-!
# Why a command line cannot be read

Causes of four kinds: the text is blank, it breaks the grammar, it uses a construct the grammar
knows and does not analyse, or it has no reading at all. Positions count characters of the text
being read, which for the inside of a substitution is that inside.
-/

namespace ShellVet.Shell

/-- A token as a message shows it. -/
inductive Lexeme where
  | text (value : String)
  | number (value : Nat)
  deriving DecidableEq, Repr

/-- Texts between quotes, numbers bare. -/
def Lexeme.shown : Lexeme → String
  | .text value => Text.quoted value
  | .number value => toString value

/-- A construct that is recognised and not analysed. -/
inductive Unsupported where
  | arithmeticExpansion
  | arithmeticSubstitution
  /-- A rule of the grammar, the word it starts with and, where there is one, the part after it. -/
  | construct (rule head : String) (argument : Option String)
  deriving DecidableEq, Repr

/-- The construct named in a message. -/
def Unsupported.message : Unsupported → String
  | .arithmeticExpansion => "arithmetic expansion"
  | .arithmeticSubstitution => "arithmetic substitution"
  | .construct rule head argument =>
    let braced (label value : String) := label ++ " = \x7b" ++ value ++ "\x7d"
    braced "type" rule ++ ", " ++ braced "token" head ++
      match argument with
      | some value => ", " ++ braced "parts" value
      | none => ""

/-- Why a command line cannot be read. -/
inductive ParseError where
  /-- Nothing but white space. -/
  | blank
  /-- A token that the grammar does not allow at its place. -/
  | unexpected (found : Lexeme) (pos : Nat)
  /-- The text ends where the grammar wants more. -/
  | unexpectedEnd (pos : Nat)
  /-- A quote or bracket is never closed. -/
  | unclosed (closer : Char) (pos : Nat)
  /-- No line ends the here-document. -/
  | undelimited (delimiter : String) (pos : Nat)
  | unsupported (construct : Unsupported)
  /-- The text has no reading, and no rule to say why. -/
  | unreadable
  deriving DecidableEq, Repr

/-- The wording of an error. -/
def ParseError.message : ParseError → String
  | .blank => "Empty or invalid command string"
  | .unexpected found pos => s!"unexpected token {found.shown} (position {pos})"
  | .unexpectedEnd pos => s!"unexpected EOF (position {pos})"
  | .unclosed closer pos =>
    let shown := Text.quoted (String.singleton closer)
    s!"unexpected EOF while looking for matching {shown} (position {pos})"
  | .undelimited delimiter pos =>
    let shown := Text.quoted delimiter
    s!"here-document at line 0 delimited by end-of-file (wanted {shown}) (position {pos})"
  | .unsupported construct => construct.message
  | .unreadable => ""

end ShellVet.Shell
