import ShellVet.Shell.Cursor
import ShellVet.Shell.Tree
import ShellVet.Text.Class

/-!
# Expansions inside words

Before a command runs the shell removes the quotes of its words and replaces parameters and
substitutions. `expand` removes the quotes, keeps every expansion as it was written, and gives the
trees of the expansions; the commands inside substitutions are read by the function it is given.
-/

namespace ShellVet.Shell

/-- A tree with the ends of the here-documents below it. -/
structure Reading where
  tree : Tree
  documents : List (Nat × Nat)

/-- Reads the statement at the start of a text that stands at a place of the whole text. With
`closing` the statement may end at a closing parenthesis. -/
abbrev StatementReader :=
  List Char → (place : Nat) → (closing : Bool) → Except ParseError Reading

/-- A word after expansion: its text in reverse, the expansions in reverse, and the ends of the
here-documents below them. -/
structure Expanded where
  text : List Char := []
  parts : List Tree := []
  documents : List (Nat × Nat) := []

/-- The word with one more character. -/
def Expanded.push (e : Expanded) (c : Char) : Expanded :=
  { e with text := c :: e.text }

/-- The word with an expansion that was written as `source`. -/
def Expanded.pushPart (e : Expanded) (source : List Char) (part : Tree) : Expanded :=
  { e with text := source.reverse ++ e.text, parts := part :: e.parts }

/-- The word with a substitution that was written as `source`. -/
def Expanded.pushSubstitution (e : Expanded) (source : List Char) (part : Tree)
    (documents : List (Nat × Nat)) : Expanded :=
  { e.pushPart source part with documents := e.documents ++ documents }

/-- How many characters stand before the grave accent that closes a substitution; a backslash
protects the character after it. -/
def untilGrave : List Char → Option Nat
  | [] => none
  | '\\' :: _ :: rest => (untilGrave rest).map (· + 2)
  | c :: rest => if c = grave then some 0 else (untilGrave rest).map (· + 1)

/-- How many characters after a tilde belong to it. -/
def tildeLength (rest : List Char) : Nat :=
  (rest.takeWhile fun c => c ≠ '/' && c ≠ '\\' && c ≠ '\'' && c ≠ '"').length

/-- How many characters after a dollar name the parameter. -/
def parameterLength : List Char → Nat
  | '\x7b' :: rest =>
    match rest.findIdx? (· = '\x7d') with
    | some closer => closer + 2
    | none => rest.length + 1
  | c :: rest =>
    if c ∈ ['0', '1', '2', '3', '4', '5', '6', '7', '8', '9', '$', '#', '?', '-', '!', '*', '@']
    then 1
    else ((c :: rest).takeWhile Text.isNameChar).length
  | [] => 0

/-- The name of the parameter that the characters after a dollar name. -/
def parameterName : List Char → List Char
  | '\x7b' :: rest => rest.takeWhile (· ≠ '\x7d')
  | rest => rest.take (parameterLength rest)

/-- How many characters a substitution takes from after its opening parenthesis on: those of its
statement and the one after it. What follows in the word is ordinary text. -/
def substitutionLength (reading : Reading) (place : Nat) : Nat :=
  reading.tree.span.stop - place + 1

/-- Expands the rest of a word, which stands at a place of the whole text, when the word begins at
`first`. -/
def expandFrom (statement : StatementReader) (doubleQuoted : Bool) (first : Nat) :
    Nat → Nat → Expanded → List Char → Except ParseError Expanded
  | 0, _, e, _ => pure e
  | _, _, e, [] => pure e
  | fuel + 1, place, e, c :: rest =>
    let goOn (e : Expanded) (taken : Nat) :=
      expandFrom statement doubleQuoted first fuel (place + 1 + taken) e (rest.drop taken)
    let verbatim (taken : Nat) : List Char := c :: rest.take taken
    let span (taken : Nat) : Span := ⟨place, place + 1 + taken⟩
    if (c = '<' || c = '>') && rest.head? = some '(' && !doubleQuoted then do
      let reading ← statement rest.tail (place + 2) true
      let taken := 1 + substitutionLength reading (place + 2)
      goOn (e.pushSubstitution (verbatim taken)
        (.processSubstitution (span taken) reading.tree) reading.documents) taken
    else if c = '~' && place = first && !doubleQuoted then
      let taken := tildeLength rest
      let source := verbatim taken
      match rest.drop taken with
      | d :: _ =>
        if d = '/' then
          goOn (e.pushPart source (.tilde (span taken) (String.ofList source))) taken
        else goOn { e with text := source.reverse ++ e.text } taken
      | [] => goOn (e.pushPart source (.tilde (span taken) (String.ofList source))) taken
    else if c = '$' && !(place = first && rest.isEmpty) then
      match rest with
      | '(' :: '(' :: _ => throw (.unsupported .arithmeticExpansion)
      | '(' :: inner => do
        let reading ← statement inner (place + 2) true
        let taken := 1 + substitutionLength reading (place + 2)
        goOn (e.pushSubstitution (verbatim taken)
          (.commandSubstitution (span taken) reading.tree) reading.documents) taken
      | '[' :: _ => throw (.unsupported .arithmeticSubstitution)
      | _ =>
        let taken := parameterLength rest
        let name := String.ofList (parameterName rest)
        goOn (e.pushPart (verbatim taken) (.parameter (span taken) name)) taken
    else if c = grave then
      if rest.head? = some grave then goOn ((e.push grave).push grave) 1
      else match untilGrave rest with
        | none => throw .unreadable
        | some inner => do
          let reading ← statement (rest.take inner) (place + 1) false
          let taken := inner + 1
          goOn (e.pushSubstitution (verbatim taken)
            (.commandSubstitution (span taken) reading.tree) reading.documents) taken
    else if c = '\\' then
      match rest with
      | d :: _ => goOn (e.push d) 1
      | [] => goOn e 0
    else if c = '"' then goOn e 0
    else if c = '\'' then goOn (if doubleQuoted then e.push c else e) 0
    else goOn (e.push c) 0

/-- Whether apostrophes enclose the whole word, so that nothing in it is expanded. -/
def isLiteral (word : List Char) : Bool :=
  word.head? = some '\'' && word.getLast? = some '\''

/-- Expands a word that stands at a place of the whole text. -/
def expand (statement : StatementReader) (place : Nat) (word : List Char) :
    Except ParseError Expanded :=
  if isLiteral word then pure { text := (word.tail.dropLast).reverse }
  else
    expandFrom statement (word.head? = some '"') place (word.length + 1) place {} word

end ShellVet.Shell
