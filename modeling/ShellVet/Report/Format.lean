import ShellVet.Severity
import ShellVet.Terminal.Screen
import ShellVet.Text.Case

/-!
# The pieces of reports

Each piece is written for one of two readers. A human gets markup with colours; an agent gets plain
lines with tags that are easy to search for. Texts from outside go through `text` or `command`,
which keep a human's markup from being changed by them.
-/

namespace ShellVet.Report

/-- For whom a report is written. -/
inductive Audience where
  | human
  | agent
  deriving DecidableEq, Repr

namespace Audience

/-- A text from outside. -/
def text : Audience → String → String
  | .human, value => String.ofList (Terminal.Markup.escape value.toList)
  | .agent, value => value

/-- A text in a style. -/
def styled (style text : String) : String := s!"[{style}]{text}[/{style}]"

/-- The title of a report. -/
def header : Audience → String → String
  | .human, title =>
    "\n" ++ styled "bold" (styled "cyan" "┌─" ++ s!" {title} " ++ styled "cyan" "─┐") ++ "\n"
  | .agent, title => s!"=== {title} ==="

/-- A value with its label. -/
def field : Audience → String → String → String
  | .human, label, value => styled "bold" (label ++ ":") ++ " " ++ value
  | .agent, label, value => s!"{label}: {value}"

/-- A command in a list. -/
def command : Audience → String → String
  | .human, value =>
    "  " ++ styled "dim" "-" ++ " " ++ styled "white" (Audience.human.text value)
  | .agent, value => "  - " ++ value

/-- A message in the style of its kind for a human, and behind its tag for an agent. -/
def message (style sign tag : String) : Audience → String → String
  | .human, value => styled style (sign ++ value)
  | .agent, value => s!"[{tag}] {value}"

/-- Good news. -/
def success : Audience → String → String := message "green" "✓ " "OK"

/-- A warning. -/
def warning : Audience → String → String := message "yellow" "⚠  " "WARN"

/-- An error. -/
def error : Audience → String → String := message "red" "✗ " "ERROR"

/-- A hint. -/
def info : Audience → String → String := message "cyan" "→ " "INFO"

/-- The style of a severity. -/
def severityStyle : Severity → String
  | .critical => "bold white on red"
  | .high => "bold black on yellow"
  | .medium => "white on blue"
  | .low => "white on green"
  | .none => "dim"

/-- A severity by its name. Other names stand in brackets. -/
def severity (audience : Audience) (name : String) : String :=
  let tag := String.ofList (Text.upper name.toList)
  match audience, Severity.all.find? fun severity => severity.name == name with
  | .human, some known => styled (severityStyle known) s!" {tag} "
  | audience, _ => audience.text s!"[{tag}]"

/-- Whether something is switched on. -/
def toggle : Audience → Bool → String
  | .human, true => styled "green" "on"
  | .human, false => styled "dim" "off"
  | .agent, true => "on"
  | .agent, false => "off"

/-- A line that ends a report. -/
def divider : Audience → String
  | .human => styled "dim" ("".pushn '═' 50)
  | .agent => "---"

/-- What is written for a line: what the terminal is sent for the markup, or the plain text. -/
def sent (console : Terminal.Markup.Console) :
    Audience → String → Except Terminal.Markup.Fault String
  | .human, line => (Terminal.sent console line).map (· ++ "\n")
  | .agent, line => .ok (String.ofList (Terminal.withoutSequences line.toList) ++ "\n")

end Audience

end ShellVet.Report
