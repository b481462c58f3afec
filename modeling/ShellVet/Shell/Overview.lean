import ShellVet.Shell.Invocation
import ShellVet.Signature.Phrase
import ShellVet.Regex.Match

/-!
# A command line at a glance

Short answers about a command line: which commands it invokes, whether it nests one command in
another, and whether it has a pipe. A line that cannot be read invokes nothing.
-/

namespace ShellVet.Shell

open Regex Phrase

/-- The commands that a command line invokes; none if it cannot be read. -/
def invocationsOf (commandLine : String) : List Invocation :=
  match parse commandLine with
  | .ok invocations => invocations
  | .error _ => []

/-- The names of the commands that a command line invokes. -/
def namesIn (commandLine : String) : List String :=
  (invocationsOf commandLine).map (·.name)

/-- What looks like a substitution that is not empty, also between quotes. -/
def substitution : Regex :=
  choice
    [row [spell "$(", several (noneOf ")"), spell ")"],
     row [spell "\x60", several (noneOf "\x60"), spell "\x60"]]

/-- Whether a command line has something that looks like a substitution, or a command inside of
one or of a subshell. -/
def hasNesting (commandLine : String) : Bool :=
  substitution.occursIn commandLine.toList || (invocationsOf commandLine).any (·.nested)

/-- Whether a command reads from a pipe. -/
def hasPipe (commandLine : String) : Bool :=
  (invocationsOf commandLine).any (·.piped)

end ShellVet.Shell
