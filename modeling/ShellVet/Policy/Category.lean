import ShellVet.Text.Case
import ShellVet.Text.Blank

/-!
# Categories of commands

Every known command name belongs to one category. A name is looked up trimmed and in lower case, and
matches as a whole.
-/

namespace ShellVet

/-- What a command can do at worst. -/
inductive Category where
  /-- Reads, and touches neither network nor files. -/
  | safe
  /-- Changes files, as a rule those of the user. -/
  | filesystem
  | network
  | packageManagers
  | system
  /-- Never allowed by any level. -/
  | dangerous
  deriving DecidableEq, Repr

namespace Category

/-- All categories, the least privileged first. -/
def all : List Category :=
  [.safe, .filesystem, .network, .packageManagers, .system, .dangerous]

/-- The name of a category. -/
def name : Category → String
  | .safe => "SAFE"
  | .filesystem => "FILESYSTEM"
  | .network => "NETWORK"
  | .packageManagers => "PACKAGE_MANAGERS"
  | .system => "SYSTEM"
  | .dangerous => "DANGEROUS"

/-- The category of a name. -/
def ofName? (name : String) : Option Category :=
  all.find? fun category => category.name == name

/-- The categories that names name, one after another. A name of no category is passed over. -/
def ofNames (names : List String) : List Category := names.filterMap ofName?

/-- The commands of a category, in the order of their code points. -/
def commands : Category → List String
  | .safe =>
    ["[", "[[", "awk", "basename", "cal", "cat", "clear", "comm", "cut", "date", "diff", "dirname",
     "echo", "env", "false", "grep", "groups", "head", "help", "hostname", "id", "info", "join",
     "less", "ls", "man", "more", "printenv", "printf", "pwd", "readlink", "realpath", "reset",
     "sed", "seq", "sleep", "sort", "tail", "tee", "test", "tput", "tr", "true", "type", "uname",
     "uniq", "wait", "wc", "whatis", "whereis", "which", "whoami", "xargs", "yes"]
  | .filesystem =>
    ["bzip2", "chgrp", "chmod", "chown", "cp", "df", "du", "file", "find", "gunzip", "gzip", "ln",
     "locate", "mkdir", "mv", "open", "stat", "tar", "touch", "unzip", "xdg-open", "xz", "zip"]
  | .network =>
    ["curl", "dig", "gh", "git", "host", "nslookup", "ping", "rsync", "scp", "sftp", "ssh",
     "traceroute", "wget"]
  | .packageManagers =>
    ["brew", "bun", "bundle", "bundler", "cargo", "code", "composer", "gem", "go", "mas", "npm",
     "npx", "pip", "pip3", "pipx", "pnpm", "python", "python3", "rustup", "yarn"]
  | .system =>
    ["apt", "apt-get", "defaults", "dnf", "doas", "dpkg", "flatpak", "killall", "launchctl",
     "pacman", "paru", "pkill", "pmset", "rpm", "scutil", "service", "snap", "sudo", "systemctl",
     "yay", "yum"]
  | .dangerous =>
    ["at", "chpasswd", "crontab", "dd", "eval", "exec", "fdisk", "halt", "iptables", "kill", "mkfs",
     "nc", "ncat", "netcat", "nft", "parted", "passwd", "poweroff", "reboot", "rm", "rmdir",
     "shred", "shutdown", "socat", "su", "ufw"]

/-- A command name as it is looked up. -/
def normalName (command : String) : String :=
  String.ofList (Text.lower (Text.trim command.toList))

/-- The category of a command; none for an unknown one. -/
def ofCommand? (command : String) : Option Category :=
  all.find? fun category => category.commands.contains (normalName command)

/-- Whether a command is in one of the categories. What happens to unknown commands is given. -/
def allow (categories : List Category) (command : String) (unknown : Bool) : Bool :=
  match ofCommand? command with
  | some category => categories.contains category
  | none => unknown

/-- All commands of the categories, the least privileged first. -/
def allowedCommands (categories : List Category) : List String :=
  (all.filter fun category => categories.contains category).flatMap commands

/-- All known commands outside of the categories, the least privileged first. -/
def blockedCommands (categories : List Category) : List String :=
  (all.filter fun category => !categories.contains category).flatMap commands

end Category

end ShellVet
