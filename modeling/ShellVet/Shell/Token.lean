import ShellVet.Shell.Error

/-!
# Tokens of a command line

The grammar reads words, numbers, assignments, operators, reserved words and line ends. A token
keeps its text and where it stands.
-/

namespace ShellVet.Shell

/-- Operators. -/
inductive Operator where
  | andIf | orIf | semiSemi | semiAnd | semiSemiAnd
  | less | greater | lessLess | lessLessDash | lessLessLess | greaterGreater
  | lessAnd | greaterAnd | lessGreater | greaterBar | andGreater | andGreaterGreater
  | barAnd | bar | ampersand | semicolon | leftParen | rightParen | dash
  deriving DecidableEq, Repr

/-- How an operator is written. -/
def Operator.text : Operator → String
  | .andIf => "&&" | .orIf => "||" | .semiSemi => ";;" | .semiAnd => ";&" | .semiSemiAnd => ";;&"
  | .less => "<" | .greater => ">" | .lessLess => "<<" | .lessLessDash => "<<-"
  | .lessLessLess => "<<<" | .greaterGreater => ">>" | .lessAnd => "<&" | .greaterAnd => ">&"
  | .lessGreater => "<>" | .greaterBar => ">|" | .andGreater => "&>" | .andGreaterGreater => "&>>"
  | .barAnd => "|&" | .bar => "|" | .ampersand => "&" | .semicolon => ";"
  | .leftParen => "(" | .rightParen => ")" | .dash => "-"

/-- Reserved words, and the two options of `time`. -/
inductive Reserved where
  | ifWord | thenWord | elseWord | elifWord | fiWord | caseWord | esacWord | forWord | selectWord
  | whileWord | untilWord | doWord | doneWord | inWord | functionWord | timeWord | leftBrace
  | rightBrace | bang | leftTest | rightTest | coprocWord | timeOption | timeSeparator
  deriving DecidableEq, Repr

/-- The reserved word a text spells where reserved words are recognised. -/
def Reserved.ofText? : List Char → Option Reserved
  | text => match String.ofList text with
    | "if" => some .ifWord | "then" => some .thenWord | "else" => some .elseWord
    | "elif" => some .elifWord | "fi" => some .fiWord | "case" => some .caseWord
    | "esac" => some .esacWord | "for" => some .forWord | "select" => some .selectWord
    | "while" => some .whileWord | "until" => some .untilWord | "do" => some .doWord
    | "done" => some .doneWord | "in" => some .inWord | "function" => some .functionWord
    | "time" => some .timeWord | "\x7b" => some .leftBrace | "\x7d" => some .rightBrace
    | "!" => some .bang | "[[" => some .leftTest | "]]" => some .rightTest
    | "coproc" => some .coprocWord
    | _ => none

/-- What a token is. -/
inductive TokenKind where
  | word
  | assignment
  | number (value : Nat)
  | operator (sign : Operator)
  | reserved (name : Reserved)
  | lineEnd
  | endOfText
  deriving DecidableEq, Repr

/-- A token with its text and the places before its first and after its last character. -/
structure Token where
  kind : TokenKind
  text : List Char
  start : Nat
  stop : Nat
  /-- A word with a quote or a backslash in it. -/
  quoted : Bool := false
  deriving DecidableEq, Repr

/-- The token as a message shows it. -/
def Token.lexeme (t : Token) : Lexeme :=
  match t.kind with
  | .number value => .number value
  | _ => .text (String.ofList t.text)

/-- Whether the token is this operator. -/
def Token.isOperator (t : Token) (sign : Operator) : Bool :=
  t.kind = .operator sign

/-- Whether the token is this reserved word. -/
def Token.isReserved (t : Token) (name : Reserved) : Bool :=
  t.kind = .reserved name

/-- Whether a command may start after the token, so that reserved words are recognised. A plain
word that consists of one brace counts as well. -/
def Token.opensCommand (t : Token) : Bool :=
  match t.kind with
  | .lineEnd => true
  | .operator sign =>
    sign ∈ [.andIf, .orIf, .barAnd, .semiSemi, .semiAnd, .semiSemiAnd, .semicolon, .leftParen,
      .rightParen, .bar, .ampersand]
  | .reserved name =>
    name ∈ [.bang, .doWord, .doneWord, .elifWord, .elseWord, .esacWord, .fiWord, .ifWord,
      .thenWord, .timeWord, .timeOption, .timeSeparator, .coprocWord, .untilWord, .whileWord,
      .leftBrace, .rightBrace]
  | .word => t.text = ['\x7b'] || t.text = ['\x7d']
  | _ => false

/-- Operators that start a redirection. -/
def Operator.redirects (sign : Operator) : Bool :=
  sign ∈ [.less, .greater, .lessLess, .lessLessDash, .lessLessLess, .greaterGreater, .lessAnd,
    .greaterAnd, .lessGreater, .greaterBar, .andGreater, .andGreaterGreater]

/-- Whether the token starts a redirection. -/
def Token.startsRedirect (t : Token) : Bool :=
  match t.kind with
  | .number _ => true
  | .operator sign => sign.redirects
  | _ => false

/-- Whether the token belongs to the simple command before it. -/
def Token.extendsCommand (t : Token) : Bool :=
  t.kind = .word || t.kind = .assignment || t.startsRedirect

/-- Whether a complete command may stand before the token. -/
def Token.endsCommand (t : Token) : Bool :=
  match t.kind with
  | .lineEnd => true
  | .operator sign =>
    sign ∈ [.andIf, .orIf, .bar, .barAnd, .ampersand, .semicolon, .rightParen, .semiSemi,
      .semiAnd, .semiSemiAnd]
  | .reserved name =>
    name ∈ [.doWord, .thenWord, .elseWord, .elifWord, .fiWord, .doneWord, .rightBrace, .esacWord]
  | _ => false

/-- Whether the token starts a compound command. -/
def Token.startsCompound (t : Token) : Bool :=
  match t.kind with
  | .operator .leftParen => true
  | .reserved name =>
    name ∈ [.ifWord, .forWord, .caseWord, .whileWord, .untilWord, .selectWord, .leftBrace,
      .leftTest]
  | _ => false

/-- Whether the token starts a pipeline, with or without a negation. -/
def Token.startsPipeline (t : Token) : Bool :=
  t.extendsCommand || t.startsCompound || t.isReserved .functionWord || t.isReserved .coprocWord
    || t.isReserved .bang || t.isReserved .timeWord

end ShellVet.Shell
