import ShellVet.Shell.Tree

/-!
# Trees in messages

A message about a construct that is not analysed quotes the tree of its part: the kind of every
node, then its fields in alphabetical order.
-/

namespace ShellVet.Shell

/-- A span between parentheses. -/
def Span.shown (span : Span) : String :=
  s!"({span.start}, {span.stop})"

/-- A node: its kind and its fields. -/
def node (kind : String) (fields : List String) : String :=
  kind ++ "Node(" ++ " ".intercalate fields ++ ")"

/-- One field of a node. -/
def field (name value : String) : String :=
  name ++ "=" ++ value

/-- Nodes between square brackets. -/
def bracketed (nodes : List String) : String :=
  "[" ++ ", ".intercalate nodes ++ "]"

/-- The name of a clause in messages. -/
def Clause.shown : Clause → String
  | .ifClause => "If"
  | .forClause => "For"
  | .whileClause => "While"
  | .untilClause => "Until"
  | .caseClause => "Case"
  | .patternClause => "Pattern"

mutual

/-- The tree as a message shows it. -/
def Tree.shown : Tree → String
  | .reserved span text =>
    node "Reservedword" [field "pos" span.shown, field "word" (Text.quoted text)]
  | .operator span text =>
    node "Operator" [field "op" (Text.quoted text), field "pos" span.shown]
  | .pipe span text => node "Pipe" [field "pipe" (Text.quoted text), field "pos" span.shown]
  | .parameter span name =>
    node "Parameter" [field "pos" span.shown, field "value" (Text.quoted name)]
  | .tilde span text => node "Tilde" [field "pos" span.shown, field "value" (Text.quoted text)]
  | .document span text =>
    node "Heredoc" [field "pos" span.shown, field "value" (Text.quoted text)]
  | .commandSubstitution span body =>
    node "Commandsubstitution" [field "command" body.shown, field "pos" span.shown]
  | .processSubstitution span body =>
    node "Processsubstitution" [field "command" body.shown, field "pos" span.shown]
  | .word span text parts =>
    node "Word" [field "parts" (bracketed (shownAll parts)), field "pos" span.shown,
      field "word" (Text.quoted text)]
  | .assignment span text parts =>
    node "Assignment" [field "parts" (bracketed (shownAll parts)), field "pos" span.shown,
      field "word" (Text.quoted text)]
  | .channel name => name.shown
  | .redirect span source sign target =>
    node "Redirect" [field "heredoc" "None",
      field "input" ((source.map fun n => toString n).getD "None"),
      field "output" target.shown, field "pos" span.shown, field "type" (Text.quoted sign)]
  | .command span parts =>
    node "Command" [field "parts" (bracketed (shownAll parts)), field "pos" span.shown]
  | .pipeline span parts =>
    node "Pipeline" [field "parts" (bracketed (shownAll parts)), field "pos" span.shown]
  | .statements span parts =>
    node "List" [field "parts" (bracketed (shownAll parts)), field "pos" span.shown]
  | .compound span body redirects =>
    node "Compound" [field "list" (bracketed (shownAll body)), field "pos" span.shown,
      field "redirects" (bracketed (shownAll redirects))]
  | .clause kind span parts =>
    node kind.shown [field "parts" (bracketed (shownAll parts)), field "pos" span.shown]
  | .function span parts =>
    let all := shownAll parts
    node "Function" [field "body" (all.getLast?.getD ""), field "name" (all.head?.getD ""),
      field "parts" (bracketed all), field "pos" span.shown]

/-- The trees as a message shows them. -/
def shownAll : List Tree → List String
  | [] => []
  | tree :: rest => tree.shown :: shownAll rest

end

end ShellVet.Shell
