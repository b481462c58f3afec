import ShellVet.Signature.Threat

/-!
# Dangerous signatures

Commands that destroy data, run fetched code, hide what they run, or take hold of the system. They
are matched against the raw text, so that what the grammar cannot read is still caught. The first
signature that matches gives the severity.
-/

namespace ShellVet.Threat

open Regex Phrase

/-- Signatures of commands that destroy data. -/
def destructive : List (Signature Threat) :=
  let options := words
    (row [.loop false 1 (some 2) (spell "-"), several (among [wordItem, .char '-'])])
  [describe "Recursive root deletion" .critical
      "Recursive or forced deletion of a root-level or home path"
      [edge, spell "rm", gap, options, spell "-", many (among [letterItem]), oneOf "rf",
       many (among [letterItem]), gap, options, rootTarget],
   sign "Root preservation disabled" .critical [spell "--no-preserve-root", edge],
   sign "Raw disk write" .critical
      [edge, spell "dd", edge, many (noneOf "|;&"), edge, spell "of=/dev/", disk],
   sign "Device overwrite" .critical [spell ">", room, spell "/dev/", disk, many wordChar],
   sign "Filesystem format" .critical
      [choice
        [row [edge, spell "mkfs", maybe (row [spell ".", several wordChar]), edge],
         row [edge, anyOf ["fdisk", "parted", "wipefs"], edge]]],
   sign "Disk erase" .critical
      [edge, spell "diskutil", gap,
       choice
        [row [spell "erase", many wordChar], spell "partitionDisk", spell "zeroDisk",
         spell "secureErase", spell "reformat"],
       edge],
   sign "Fork bomb" .critical
      [group 1 (several (among [wordItem, .char ':'])), room, spell "()", room, spell "\x7b", room,
       .again .exact 1, room, spell "|", room, .again .exact 1, room, spell "&", room,
        spell "\x7d"]]

/-- Signatures of commands that run what another command gives. -/
def remoteCode : List (Signature Threat) :=
  [describe "Remote script execution" .critical
      "Downloaded content piped straight into an interpreter"
      [edge, anyOf ["curl", "wget"], edge, many dot, spell "|", room,
       maybe (row [spell "sudo", gap, anyFlags]), interpreter],
   sign "Remote script via process substitution" .critical
      [edge, interpreter, room, spell "<(", room, anyOf ["curl", "wget"], edge],
   describe "Command substitution" .high "Output of a nested command spliced into this one"
      [spell "$("],
   sign "Backtick substitution" .high [spell "\x60", many (noneOf "\x60"), spell "\x60"],
   sign "Inline interpreter" .high
      [edge, spell "python", maybe (oneOf "23"), maybe (row [spell ".", several digit]), gap,
       letterFlags, spell "-c", edge],
   sign "Inline interpreter" .high
      [edge, anyOf ["perl", "ruby", "node", "osascript"], gap, letterFlags, spell "-e", edge],
   sign "Inline interpreter" .high [edge, spell "php", gap, letterFlags, spell "-r", edge],
   sign "Eval/exec" .high [commandStart, anyOf ["eval", "exec"], wordEnd]]

/-- Signatures of encoded payloads. -/
def encoded : List (Signature Threat) :=
  [sign "Base64 decode" .high
      [edge, spell "base64", gap, flags, anyOf ["-d", "--decode"], edge],
   sign "Hex decode" .high
      [edge, spell "xxd", gap, flags, spell "-r", maybe (spell "evert"), edge],
   sign "OpenSSL decode" .high
      [edge, spell "openssl", gap, anyOf ["enc", "base64"], edge, many dot, blank, spell "-d",
       edge],
   sign "Encoded string" .high
      [edge, choice [spell "printf", row [spell "echo", gap, spell "-e"]], gap, many dot,
       spell "\\",
       choice [row [spell "x", times 2 hexDigit], times 3 octalDigit]],
   sign "Encoded string" .high
      [spell "$'", many (noneOf "'"), spell "\\",
       choice [row [spell "x", times 2 hexDigit], times 3 octalDigit,
         row [spell "u", times 4 hexDigit]]]]

/-- Signatures of connections that relay a shell. -/
def relays : List (Signature Threat) :=
  [sign "Network relay" .high
      [commandStart, anyOf ["nc", "ncat", "netcat", "socat"], wordEnd],
   sign "Raw socket device" .high [spell "/dev/", anyOf ["tcp", "udp"], spell "/"]]

/-- Signatures of changes of privileges. -/
def privileges : List (Signature Threat) :=
  [sign "Setuid/setgid bit" .high
      [edge, spell "chmod", gap, flags,
       choice
        [row [many (oneOf "ugoa"), spell "+", many (oneOf "rwxt"), spell "s"],
         row [among [.range '2' '7'], times 3 octalDigit]],
       edge],
   sign "Root ownership" .high
      [edge, spell "chown", gap, flags, anyOf ["root", "0"],
       maybe (row [spell ":", many wordChar]), wordEnd],
   sign "Privileged shell" .high
      [choice
        [row [edge, spell "sudo", gap, flags, anyOf ["-i", "-s", "su"], edge],
         row [commandStart, spell "su", maybe (row [gap, spell "-"]),
          maybe (row [gap, spell "root"]), room, ending]]]]

/-- Signatures of writes to where the system looks for programs and settings. -/
def systemWrites : List (Signature Threat) :=
  [sign "System directory write" .high [write, systemDirectory],
   sign "System directory write" .high [placeFile, systemDirectory],
   sign "Shell profile or SSH write" .high [write, startupFile],
   sign "SSH key tampering" .high
      [choice [write, placeFile], maybeQuote, many (besides (blankItem :: chars ";&|")),
       spell "authorized_keys"]]

/-- Signatures of commands that come back later. -/
def persistence : List (Signature Threat) :=
  [sign "Scheduled task" .high
      [choice [row [edge, spell "crontab", edge], spell "/etc/cron", spell "/var/spool/cron"]],
   sign "Scheduled task" .high
      [edge, spell "launchctl", gap, anyOf ["load", "bootstrap", "submit"], edge],
   sign "Scheduled task" .high
      [choice [opening, row [oneOf ";|&(", room]], spell "at", gap,
       choice [spell "now", spell "midnight", spell "noon", spell "teatime", digit]]]

/-- All dangerous signatures, in the order in which they are tried. -/
def dangerous : List (Signature Threat) :=
  destructive ++ remoteCode ++ encoded ++ relays ++ privileges ++ systemWrites ++ persistence

end ShellVet.Threat
