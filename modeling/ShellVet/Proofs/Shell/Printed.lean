import ShellVet.Shell.Invocation

/-!
# Printed scripts

A script is a row of pipelines of simple commands, whose words are bare or stand between
apostrophes. Its text joins words by blanks, stages by bars and pipelines by any of four joints; the
commands it invokes can be read off the script without its text.

For the lexer a text is a row of pieces: words and signs, each with a blank in front or not
(`Script.flatMap_source`). `layOut` gives the tokens of pieces by their places.
-/

namespace ShellVet.Shell.Plain

/-! ## Scripts -/

/-- Whether a bare word may hold the character: an ASCII letter or digit, or one of four signs. -/
def isBare (c : Char) : Bool :=
  c.isAlphanum || c == '_' || c == '.' || c == '/' || c == '-'

/-- A word that is written as it is. -/
structure Word where
  chars : List Char
  nonempty : chars ≠ []
  bare : chars.all isBare = true

/-- The reserved words among bare words. -/
def reservedWords : List String :=
  ["if", "then", "else", "elif", "fi", "case", "esac", "for", "select", "while", "until", "do",
    "done", "in", "function", "time", "coproc"]

/-- An argument: a bare word, or any text without an apostrophe, between two of them. -/
inductive Argument where
  | bare (word : Word)
  | quoted (text : List Char) (closed : '\'' ∉ text)

/-- A simple command. -/
structure Command where
  name : Word
  unreserved : String.ofList name.chars ∉ reservedWords
  arguments : List Argument

/-- The stages of a pipeline. -/
structure Pipeline where
  first : Command
  later : List Command

/-- What stands between two pipelines. -/
inductive Joint where
  | andIf
  | orIf
  | semicolon
  | lineEnd
  deriving DecidableEq

/-- Pipelines in a row, each but the first behind its joint. -/
structure Script where
  first : Pipeline
  later : List (Joint × Pipeline)

/-! ## Their texts -/

/-- An argument as it is written. -/
def Argument.text : Argument → List Char
  | .bare word => word.chars
  | .quoted text _ => '\'' :: (text ++ ['\''])

/-- Whether an argument stands between apostrophes. -/
def Argument.isQuoted : Argument → Bool
  | .bare _ => false
  | .quoted .. => true

/-- The words of a command with blanks between them. -/
def Command.text (command : Command) : List Char :=
  command.name.chars ++ command.arguments.flatMap fun argument => ' ' :: argument.text

/-- The stages of a pipeline with bars between them. -/
def Pipeline.text (pipeline : Pipeline) : List Char :=
  pipeline.first.text ++ pipeline.later.flatMap fun command => ' ' :: '|' :: ' ' :: command.text

/-- A joint as it is written. -/
def Joint.text : Joint → List Char
  | .andIf => [' ', '&', '&', ' ']
  | .orIf => [' ', '|', '|', ' ']
  | .semicolon => [';', ' ']
  | .lineEnd => ['\n']

/-- The pipelines of a script with their joints between them. -/
def Script.text (script : Script) : List Char :=
  script.first.text ++ script.later.flatMap fun link => link.1.text ++ link.2.text

/-! ## What they invoke -/

/-- What an argument hands over: its text without the apostrophes around it. -/
def Argument.value : Argument → List Char
  | .bare word => word.chars
  | .quoted text _ => text

/-- The invocation of a command. -/
def Command.invocation (command : Command) (piped : Bool) : Invocation :=
  let name := String.ofList command.name.chars
  let arguments := command.arguments.map fun argument => String.ofList argument.value
  { name
    arguments
    text := String.ofList (Text.trim (" ".intercalate (name :: arguments)).toList)
    piped
    nested := false
    redirected := false }

/-- The invocations of a pipeline: all stages but the first one are piped. -/
def Pipeline.invocations (pipeline : Pipeline) : List Invocation :=
  pipeline.first.invocation false :: pipeline.later.map (·.invocation true)

/-- The invocations of a script. -/
def Script.invocations (script : Script) : List Invocation :=
  script.first.invocations ++ script.later.flatMap (·.2.invocations)

/-! ## Pieces of text -/

/-- The signs between words. -/
inductive Sign where
  | andIf
  | orIf
  | bar
  | semicolon
  | lineEnd
  deriving DecidableEq

/-- The kind of the token of a sign. -/
def Sign.kind : Sign → TokenKind
  | .andIf => .operator .andIf
  | .orIf => .operator .orIf
  | .bar => .operator .bar
  | .semicolon => .operator .semicolon
  | .lineEnd => .lineEnd

/-- A sign as it is written. -/
def Sign.text : Sign → List Char
  | .andIf => ['&', '&']
  | .orIf => ['|', '|']
  | .bar => ['|']
  | .semicolon => [';']
  | .lineEnd => ['\n']

/-- Whether a blank is written in front of a sign. -/
def Sign.spaced : Sign → Bool
  | .andIf | .orIf | .bar => true
  | .semicolon | .lineEnd => false

/-- A word, with a blank in front or not, or a sign. -/
inductive Piece where
  | word (spaced : Bool) (argument : Argument)
  | sign (mark : Sign)

/-- A blank, if there is one. -/
def gap (spaced : Bool) : List Char := if spaced then [' '] else []

/-- Whether a blank is in front of a piece. -/
def Piece.spaced : Piece → Bool
  | .word spaced _ => spaced
  | .sign mark => mark.spaced

/-- A piece without the blank in front of it. -/
def Piece.text : Piece → List Char
  | .word _ argument => argument.text
  | .sign mark => mark.text

/-- A piece with the blank in front of it. -/
def Piece.source (piece : Piece) : List Char := gap piece.spaced ++ piece.text

/-- The kind of the token of a piece. -/
def Piece.kind : Piece → TokenKind
  | .word .. => .word
  | .sign mark => mark.kind

/-- Whether a piece is a word between apostrophes. -/
def Piece.isQuoted : Piece → Bool
  | .word _ argument => argument.isQuoted
  | .sign _ => false

/-- The token of a piece that stands at a place. -/
def Piece.token (piece : Piece) (place : Nat) : Token :=
  { kind := piece.kind
    text := piece.text
    start := place + (gap piece.spaced).length
    stop := place + piece.source.length
    quoted := piece.isQuoted }

/-- The tokens of pieces from a place on. -/
def layOut : Nat → List Piece → List Token
  | _, [] => []
  | place, piece :: rest => piece.token place :: layOut (place + piece.source.length) rest

/-- The length of the text of pieces. -/
def width (pieces : List Piece) : Nat := (pieces.flatMap Piece.source).length

@[simp]
theorem width_nil : width [] = 0 := rfl

@[simp]
theorem width_cons (piece : Piece) (pieces : List Piece) :
    width (piece :: pieces) = piece.source.length + width pieces := by
  rw [width, List.flatMap_cons, List.length_append, width]

@[simp]
theorem width_append (pieces more : List Piece) :
    width (pieces ++ more) = width pieces + width more := by
  rw [width, List.flatMap_append, List.length_append, width, width]

theorem layOut_append (place : Nat) (pieces more : List Piece) :
    layOut place (pieces ++ more) = layOut place pieces ++ layOut (place + width pieces) more := by
  induction pieces generalizing place with
  | nil => rfl
  | cons piece pieces ih =>
    rw [List.cons_append, layOut, layOut, ih, width_cons, Nat.add_assoc, List.cons_append]

/-! ## The pieces of a script -/

/-- The sign of a joint. -/
def Joint.sign : Joint → Sign
  | .andIf => .andIf
  | .orIf => .orIf
  | .semicolon => .semicolon
  | .lineEnd => .lineEnd

/-- The pieces of arguments. -/
def argumentPieces (arguments : List Argument) : List Piece := arguments.map (.word true)

/-- The pieces of a command. -/
def Command.pieces (spaced : Bool) (command : Command) : List Piece :=
  .word spaced (.bare command.name) :: argumentPieces command.arguments

/-- The pieces of the later stages of a pipeline. -/
def stagePieces (stages : List Command) : List Piece :=
  stages.flatMap fun command => .sign .bar :: command.pieces true

/-- The pieces of a pipeline. -/
def Pipeline.pieces (spaced : Bool) (pipeline : Pipeline) : List Piece :=
  pipeline.first.pieces spaced ++ stagePieces pipeline.later

/-- The pieces of pipelines behind joints. A line starts without a blank. -/
def linkPieces (links : List (Joint × Pipeline)) : List Piece :=
  links.flatMap fun link => .sign link.1.sign :: link.2.pieces (link.1 ≠ .lineEnd)

/-- The pieces of a script. -/
def Script.pieces (script : Script) : List Piece :=
  script.first.pieces false ++ linkPieces script.later

theorem flatMap_source_argumentPieces (arguments : List Argument) :
    (argumentPieces arguments).flatMap Piece.source =
      arguments.flatMap fun argument => ' ' :: argument.text := by
  rw [argumentPieces, List.flatMap_map]
  rfl

theorem Command.flatMap_source (spaced : Bool) (command : Command) :
    (command.pieces spaced).flatMap Piece.source = gap spaced ++ command.text := by
  rw [Command.pieces, List.flatMap_cons, flatMap_source_argumentPieces, Command.text,
    ← List.append_assoc]
  rfl

theorem flatMap_source_stagePieces (stages : List Command) :
    (stagePieces stages).flatMap Piece.source =
      stages.flatMap fun command => ' ' :: '|' :: ' ' :: command.text := by
  rw [stagePieces, List.flatMap_assoc]
  congr 1
  funext command
  rw [List.flatMap_cons, Command.flatMap_source]
  rfl

theorem Pipeline.flatMap_source (spaced : Bool) (pipeline : Pipeline) :
    (pipeline.pieces spaced).flatMap Piece.source = gap spaced ++ pipeline.text := by
  rw [Pipeline.pieces, List.flatMap_append, Command.flatMap_source, flatMap_source_stagePieces,
    Pipeline.text, List.append_assoc]

theorem flatMap_source_linkPieces (links : List (Joint × Pipeline)) :
    (linkPieces links).flatMap Piece.source =
      links.flatMap fun link => link.1.text ++ link.2.text := by
  rw [linkPieces, List.flatMap_assoc]
  congr 1
  funext link
  obtain ⟨joint, pipeline⟩ := link
  rw [List.flatMap_cons, Pipeline.flatMap_source]
  cases joint <;> rfl

/-- The text of a script is that of its pieces. -/
theorem Script.flatMap_source (script : Script) :
    script.pieces.flatMap Piece.source = script.text := by
  rw [Script.pieces, List.flatMap_append, Pipeline.flatMap_source, flatMap_source_linkPieces]
  rfl

end ShellVet.Shell.Plain
