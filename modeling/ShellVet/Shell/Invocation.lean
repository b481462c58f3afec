import ShellVet.Shell.Parser

/-!
# The commands a command line invokes

`Tree.invocations` lists the simple commands of a tree in the order of the text, each before those
inside the substitutions of its own words. `parse` reads a command line and lists its commands.
-/

namespace ShellVet.Shell

/-- A command that a command line invokes. -/
structure Invocation where
  name : String
  arguments : List String
  /-- Name and arguments with blanks between them. -/
  text : String
  /-- A later stage of a pipeline. -/
  piped : Bool
  /-- Inside a substitution or a subshell. -/
  nested : Bool
  /-- Carries a redirection of its own. -/
  redirected : Bool
  deriving DecidableEq, Repr

/-- The word texts among the parts of a command. -/
def wordTexts (parts : List Tree) : List String :=
  parts.filterMap fun
    | .word _ text _ => some text
    | _ => none

/-- Whether the tree is a redirection. -/
def Tree.isRedirect : Tree → Bool
  | .redirect .. => true
  | _ => false

/-- Whether the tree is a sign between stages. -/
def Tree.isPipe : Tree → Bool
  | .pipe .. => true
  | _ => false

/-- Whether the parts of a compound command start with a parenthesis. -/
def opensSubshell : List Tree → Bool
  | .reserved _ "(" :: _ => true
  | _ => false

/-- The command that the words of a simple command invoke; none without a first word. -/
def invocation? (parts : List Tree) (piped nested : Bool) : Option Invocation :=
  match wordTexts parts with
  | [] => none
  | name :: arguments =>
    if name.isEmpty then none
    else
      let text := Text.trim (" ".intercalate (name :: arguments)).toList
      some ⟨name, arguments, String.ofList text, piped, nested, parts.any (·.isRedirect)⟩

mutual

/-- The commands below a tree that is a later stage of a pipeline or not, and that is inside a
substitution or subshell or not. A substitution is met in its word only. -/
def Tree.invocations (piped nested : Bool) : Tree → List Invocation
  | .command _ parts => (invocation? parts piped nested).toList ++ substitutedIn parts
  | .pipeline _ parts => stageInvocations piped nested true parts
  | .statements _ parts | .clause _ _ parts | .function _ parts =>
    invocationsIn piped nested parts
  | .compound _ body redirects =>
    invocationsIn piped (nested || opensSubshell body) body ++ substitutedIn redirects
  | .word _ _ parts | .assignment _ _ parts => substitutedIn parts
  | .redirect _ _ _ target => target.substituted
  | .reserved .. | .operator .. | .pipe .. | .parameter .. | .tilde .. | .document ..
  | .channel .. | .commandSubstitution .. | .processSubstitution .. => []

/-- The commands below trees in a row. -/
def invocationsIn (piped nested : Bool) : List Tree → List Invocation
  | [] => []
  | tree :: rest => tree.invocations piped nested ++ invocationsIn piped nested rest

/-- The commands below the stages of a pipeline, where only the first one reads no pipe. -/
def stageInvocations (piped nested first : Bool) : List Tree → List Invocation
  | [] => []
  | tree :: rest =>
    if tree.isPipe then stageInvocations piped nested first rest
    else tree.invocations (piped || !first) nested ++ stageInvocations piped nested false rest

/-- The commands inside the substitutions of a word, an assignment or a redirection. -/
def Tree.substituted : Tree → List Invocation
  | .commandSubstitution _ body | .processSubstitution _ body => body.invocations false true
  | .redirect _ _ _ target => target.substituted
  | .word _ _ parts | .assignment _ _ parts | .command _ parts | .pipeline _ parts
  | .statements _ parts | .clause _ _ parts | .function _ parts => substitutedIn parts
  | .reserved .. | .operator .. | .pipe .. | .parameter .. | .tilde .. | .document ..
  | .channel .. | .compound .. => []

/-- The commands inside the substitutions of words in a row. -/
def substitutedIn : List Tree → List Invocation
  | [] => []
  | tree :: rest => tree.substituted ++ substitutedIn rest

end

/-- The commands that a command line invokes. -/
def parse (commandLine : String) : Except ParseError (List Invocation) := do
  if Text.isBlankText commandLine.toList then throw .blank
  return invocationsIn false false (← readTrees commandLine)

end ShellVet.Shell
