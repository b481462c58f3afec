import ShellVet.Shell.Error

/-!
# Syntax trees of command lines

A tree keeps every word, sign and redirection of the statement it was read from, with its place in
the text. Substitutions hang below the words they occur in.
-/

namespace ShellVet.Shell

/-- The places before the first and after the last character. -/
structure Span where
  start : Nat
  stop : Nat
  deriving DecidableEq, Repr

/-- The conditional, the loops, and the selection with its patterns. -/
inductive Clause where
  | ifClause | forClause | whileClause | untilClause | caseClause | patternClause
  deriving DecidableEq, Repr

/-- A syntax tree. -/
inductive Tree where
  /-- A reserved word or a bracket. -/
  | reserved (span : Span) (text : String)
  /-- A sign between statements. -/
  | operator (span : Span) (text : String)
  /-- A sign between the stages of a pipeline. -/
  | pipe (span : Span) (text : String)
  | parameter (span : Span) (name : String)
  | tilde (span : Span) (text : String)
  /-- The lines of a here-document. -/
  | document (span : Span) (text : String)
  | commandSubstitution (span : Span) (body : Tree)
  | processSubstitution (span : Span) (body : Tree)
  /-- A word after the removal of quotes, with the expansions in it. -/
  | word (span : Span) (text : String) (parts : List Tree)
  | assignment (span : Span) (text : String) (parts : List Tree)
  /-- A number, or the sign that closes a channel, as the target of a redirection. -/
  | channel (name : Lexeme)
  | redirect (span : Span) (source : Option Nat) (sign : String) (target : Tree)
  /-- A simple command: words, assignments and redirections. -/
  | command (span : Span) (parts : List Tree)
  | pipeline (span : Span) (parts : List Tree)
  /-- Statements with the signs between and after them. -/
  | statements (span : Span) (parts : List Tree)
  | compound (span : Span) (body redirects : List Tree)
  | clause (kind : Clause) (span : Span) (parts : List Tree)
  | function (span : Span) (parts : List Tree)
  deriving Repr

/-- Where the tree stands in the text. -/
def Tree.span : Tree → Span
  | .reserved span _ | .operator span _ | .pipe span _ | .parameter span _ | .tilde span _
  | .document span _ | .commandSubstitution span _ | .processSubstitution span _ | .word span _ _
  | .assignment span _ _ | .redirect span _ _ _ | .command span _ | .pipeline span _
  | .statements span _ | .compound span _ _ | .clause _ span _ | .function span _ => span
  | .channel _ => ⟨0, 0⟩

/-- The span from the first tree to the last. -/
def Span.ofParts (parts : List Tree) : Span :=
  ⟨(parts.head?.map (·.span.start)).getD 0, (parts.getLast?.map (·.span.stop)).getD 0⟩

/-- Statements in a row; a single one stands for itself. -/
def Tree.ofStatements : List Tree → Tree
  | [tree] => tree
  | parts => .statements (.ofParts parts) parts

/-- Whether the sign of a redirection announces a here-document. -/
def announcesDocument (sign : String) : Bool :=
  sign = "<<" || sign = "<<-"

mutual

/-- Where the redirection of the last here-document in the tree stands. -/
def Tree.lastDocument? : Tree → Option Nat
  | .redirect span _ sign target =>
    if announcesDocument sign then some span.start else target.lastDocument?
  | .commandSubstitution _ body | .processSubstitution _ body => body.lastDocument?
  | .word _ _ parts | .assignment _ _ parts | .command _ parts | .pipeline _ parts
  | .statements _ parts | .clause _ _ parts | .function _ parts => lastDocumentOf? parts
  | .compound _ body redirects => (lastDocumentOf? redirects).or (lastDocumentOf? body)
  | _ => none

/-- Where the redirection of the last here-document in the trees stands. -/
def lastDocumentOf? : List Tree → Option Nat
  | [] => none
  | tree :: rest => (lastDocumentOf? rest).or tree.lastDocument?

end

end ShellVet.Shell
