import ShellVet.Severity
import ShellVet.Signature.Basic
import ShellVet.Signature.Phrase

/-!
# Threats

A threat is what a signature of commands stands for. The pieces here are shared by several
signatures: where a command writes, and what it writes to.
-/

namespace ShellVet

/-- What a signature stands for. -/
structure Threat where
  name : String
  severity : Severity
  description : String := ""
  deriving DecidableEq, Repr

namespace Threat

open Regex Phrase

/-- A signature of a threat with a description. Letter case does not count, because some file
systems take `CURL` for `curl`. -/
def describe (name : String) (severity : Severity) (description : String) (pieces : List Regex) :
    Signature Threat :=
  ⟨{ name, severity, description }, (row pieces).caseless⟩

/-- A signature of a threat without a description. -/
def sign (name : String) (severity : Severity) (pieces : List Regex) : Signature Threat :=
  describe name severity "" pieces

/-- A quote, if there is one. -/
def maybeQuote : Regex := maybe (oneOf "\"'")

/-- A top-level or home path up to the end of its word. -/
def rootTarget : Regex :=
  let slash := maybe (spell "/")
  let plain := among (wordItem :: chars ".-")
  row
    [maybeQuote,
     choice
      [row [spell "/", maybe (row [several plain, slash])],
       spell "/*",
       row [spell "~", slash],
       row [spell "$HOME", slash],
       row [spell "$\x7bHOME\x7d", slash]],
     maybeQuote,
     .ahead true (choice [blank, ending, oneOf ";&|)"])]

/-- A directory of the system. -/
def systemDirectory : Regex :=
  choice
    [spell "/etc/",
     row [spell "/usr/", maybe (spell "local/"), maybe (spell "s"), spell "bin/"],
     row [spell "/", maybe (spell "s"), spell "bin/"],
     spell "/System/",
     row [spell "/Library/Launch", anyOf ["Agents", "Daemons"], spell "/"]]

/-- A start-up file of a shell, or the directory of keys. -/
def startupFile : Regex :=
  row
    [maybeQuote,
     anyOf ["~", "$HOME", "$\x7bHOME\x7d"],
     spell "/.",
     anyOf ["ssh/", "bashrc", "bash_profile", "bash_login", "zshrc", "zprofile", "zshenv", "zlogin",
       "profile"]]

/-- An interpreter. -/
def interpreter : Regex :=
  row
    [choice
      [row [maybe (anyOf ["ba", "z", "da", "k", "c", "tc", "fi"]), spell "sh"],
       row [spell "python", maybe (oneOf "23")],
       spell "perl", spell "ruby", spell "node", spell "php"],
     edge]

/-- A redirection or a copy of output into a file. -/
def write : Regex :=
  row
    [choice
      [row [spell ">", maybe (spell ">")],
       row [edge, spell "tee", gap, maybe (row [spell "-a", gap])]],
     room]

/-- A command that puts a file somewhere, up to white space before its target. -/
def placeFile : Regex :=
  row [edge, anyOf ["cp", "mv", "ln", "install"], gap, many (noneOf ";&|"), blank]

/-- A disk among the devices. -/
def disk : Regex :=
  choice [row [maybe (spell "r"), spell "disk"], spell "sd", spell "hd", spell "nvme",
    spell "mmcblk", spell "xvd", spell "vd"]

/-- A hexadecimal digit. -/
def hexDigit : Regex := among [.range '0' '9', .range 'a' 'f']

/-- An octal digit. -/
def octalDigit : Regex := among [.range '0' '7']

end Threat

end ShellVet
