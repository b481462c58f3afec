import ShellVet.Cli.Session
import ShellVet.Text.Case

/-!
# Questions

A question is asked until the typed line is an answer to it. An empty line means no, and the end of
the input breaks the run off.
-/

namespace ShellVet.Cli

/-- The answer in a typed line: yes or no, in any case and with white space around it. -/
def answer? (line : String) : Option Bool :=
  let word := String.ofList (Text.trim (Text.lower line.toList))
  if word == "y" || word == "yes" then some true
  else if word == "n" || word == "no" || word.isEmpty then some false
  else none

/-- What a dialogue writes and how it ends: with an answer, or at the end of the input. Also gives
the lines that are left. -/
structure Dialogue where
  written : String
  answer : Option Bool
  rest : List String
  deriving DecidableEq, Repr

/-- Asks a question of the lines that are typed. -/
def ask (question : String) : List String → Dialogue
  | [] => ⟨question ++ " [y/N]: ", none, []⟩
  | line :: rest =>
    let shown := question ++ " [y/N]: " ++ line ++ "\n"
    match answer? line with
    | some answer => ⟨shown, some answer, rest⟩
    | none =>
      let more := ask question rest
      { more with written := shown ++ "Error: invalid input\n" ++ more.written }

namespace Run

/-- Asks a question. -/
def confirm (question : String) : Run Bool := do
  let dialogue := ask question (← get).input
  modify fun session => { session with input := dialogue.rest }
  write dialogue.written
  match dialogue.answer with
  | some answer => return answer
  | none =>
    notify ["Aborted."]
    exit 1

end Run

end ShellVet.Cli
