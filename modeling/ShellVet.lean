import ShellVet.Calendar.Basic
import ShellVet.Calendar.Text
import ShellVet.Cli.Arguments
import ShellVet.Cli.Confirm
import ShellVet.Cli.Log
import ShellVet.Cli.Request
import ShellVet.Cli.Run
import ShellVet.Cli.Session
import ShellVet.Config.Basic
import ShellVet.Config.Store
import ShellVet.Decimal.Binary
import ShellVet.Decimal.Read
import ShellVet.Decimal.Shortest
import ShellVet.Document.Basic
import ShellVet.Document.Commands
import ShellVet.Document.Key
import ShellVet.Files.Basic
import ShellVet.Files.Path
import ShellVet.Json.Basic
import ShellVet.Json.Error
import ShellVet.Json.Keys
import ShellVet.Json.Merge
import ShellVet.Json.Reader
import ShellVet.Json.Shown
import ShellVet.Json.Writer
import ShellVet.Main
import ShellVet.Obfuscation
import ShellVet.Policy.Category
import ShellVet.Policy.Level
import ShellVet.Proofs.Cli.ExitStatus
import ShellVet.Proofs.Cli.Screened
import ShellVet.Proofs.Config.FailsClosed
import ShellVet.Proofs.Regex.Ink
import ShellVet.Proofs.Regex.Shifted
import ShellVet.Proofs.Regex.Ways
import ShellVet.Proofs.Report.Shown
import ShellVet.Proofs.Scan.Assessed
import ShellVet.Proofs.Scan.Batches
import ShellVet.Proofs.Scan.Clean
import ShellVet.Proofs.Scan.Declared
import ShellVet.Proofs.Scan.Distinct
import ShellVet.Proofs.Scan.Levels
import ShellVet.Proofs.Scan.Prefixed
import ShellVet.Proofs.Shell.Complete
import ShellVet.Proofs.Shell.Fed
import ShellVet.Proofs.Shell.Grammatical
import ShellVet.Proofs.Shell.Lexed
import ShellVet.Proofs.Shell.Parsed
import ShellVet.Proofs.Shell.Paths
import ShellVet.Proofs.Shell.Printed
import ShellVet.Proofs.Shell.RoundTrip
import ShellVet.Proofs.Shell.Taken
import ShellVet.Proofs.Shell.Walk
import ShellVet.Proofs.Terminal.Markup
import ShellVet.Proofs.Text.Folded
import ShellVet.Proofs.Text.Trim
import ShellVet.Proofs.Text.Utf8
import ShellVet.Regex.Basic
import ShellVet.Regex.CharSet
import ShellVet.Regex.Match
import ShellVet.Regex.Reader
import ShellVet.Report.Format
import ShellVet.Report.Lines
import ShellVet.Risk
import ShellVet.Scan.Advice
import ShellVet.Scan.Basic
import ShellVet.Scan.Findings
import ShellVet.Severity
import ShellVet.Shell.Cursor
import ShellVet.Shell.Describe
import ShellVet.Shell.Enclosure
import ShellVet.Shell.Error
import ShellVet.Shell.Expansion
import ShellVet.Shell.Invocation
import ShellVet.Shell.Lexer
import ShellVet.Shell.Overview
import ShellVet.Shell.Parser
import ShellVet.Shell.Token
import ShellVet.Shell.Tree
import ShellVet.Signature.Basic
import ShellVet.Signature.Dangerous
import ShellVet.Signature.Phrase
import ShellVet.Signature.Suspicious
import ShellVet.Signature.Threat
import ShellVet.Source.Address
import ShellVet.Source.Load
import ShellVet.Source.Package
import ShellVet.Source.Url
import ShellVet.Terminal.ColorNames
import ShellVet.Terminal.Markup
import ShellVet.Terminal.Screen
import ShellVet.Terminal.Style
import ShellVet.Terminal.WidthTable
import ShellVet.Text.Blank
import ShellVet.Text.Case
import ShellVet.Text.CaseTable
import ShellVet.Text.CasedTable
import ShellVet.Text.Class
import ShellVet.Text.FoldTable
import ShellVet.Text.LetterTable
import ShellVet.Text.NumeralTable
import ShellVet.Text.PrintableTable
import ShellVet.Text.Quoted
import ShellVet.Text.Ranges
import ShellVet.Text.Utf8
import ShellVet.Yaml.Basic
import ShellVet.Yaml.Error
import ShellVet.Yaml.Lexer
import ShellVet.Yaml.Node
import ShellVet.Yaml.Number
import ShellVet.Yaml.Place
import ShellVet.Yaml.Scalar
import ShellVet.Yaml.Schema
import ShellVet.Yaml.Token
import ShellVet.Proofs.Regex.Folded
import ShellVet.Proofs.Scan.Folded
import ShellVet.Proofs.Json.RoundTrip
import ShellVet.Proofs.Config.Kept
import ShellVet.Proofs.Shell.Quiet
import ShellVet.Proofs.Scan.Substituted
import ShellVet.Proofs.Document.Commands
import ShellVet.Proofs.Shell.Piped
import ShellVet.Proofs.Scan.Advised
import ShellVet.Proofs.Scan.Marked
import ShellVet.Proofs.Regex.Replaced
import ShellVet.Proofs.Regex.Surrounded
import ShellVet.Proofs.Scan.Unquoted
import ShellVet.Proofs.Regex.Padded
import ShellVet.Proofs.Scan.Padded
import ShellVet.Proofs.Regex.Continued
import ShellVet.Proofs.Scan.Continued
import ShellVet.Proofs.Json.Fractions
import ShellVet.Proofs.Json.Merged
import ShellVet.Proofs.Scan.Deleted
import ShellVet.Proofs.Config.Changed
import ShellVet.Proofs.Config.Assigned
import ShellVet.Proofs.Config.Settled
import ShellVet.Proofs.Json.Reached
import ShellVet.Proofs.Source.Named
import ShellVet.Proofs.Source.Fetched
import ShellVet.Proofs.Cli.Refused
import ShellVet.Proofs.Policy.Listed
import ShellVet.Proofs.Cli.Unchanged
import ShellVet.Proofs.Report.Outside
import ShellVet.Proofs.Signature.Compiled
import ShellVet.Proofs.Json.Spelled
import ShellVet.Proofs.Json.Camelized
