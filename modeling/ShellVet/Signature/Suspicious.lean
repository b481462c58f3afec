import ShellVet.Signature.Threat

/-!
# Suspicious signatures

Commands that are common in set-up scripts and still deserve a look: they fetch or install software,
ask for privileges or change the environment.
-/

namespace ShellVet.Threat

open Regex Phrase

/-- Programs that install packages. -/
def installer : Regex :=
  choice
    [spell "brew", spell "npm", spell "pnpm", spell "yarn", spell "bun",
     row [spell "pip", maybe (oneOf "23")],
     spell "pipx", spell "gem", spell "cargo", spell "go", spell "composer",
     row [spell "apt", maybe (spell "-get")],
     spell "dnf", spell "yum", spell "pacman", spell "snap", spell "flatpak", spell "mas"]

/-- All suspicious signatures, in the order in which they are tried. -/
def suspicious : List (Signature Threat) :=
  [sign "Privilege escalation" .medium [commandStart, anyOf ["sudo", "doas"], wordEnd],
   sign "Download" .medium [commandStart, anyOf ["curl", "wget"], wordEnd],
   sign "Repository clone" .medium
      [choice
        [row [edge, spell "git", gap, anyFlags, spell "clone", edge],
         row [edge, spell "gh", gap, spell "repo", gap, spell "clone", edge]]],
   sign "Package install" .medium
      [edge, installer, gap, anyFlags, anyOf ["install", "add", "get", "i"], edge],
   sign "Package install" .medium [edge, spell "code", gap, spell "--install-extension", edge],
   sign "Environment change" .medium
      [choice
        [row [edge, spell "export", gap, several wordChar, spell "="],
         row [after (blankItem :: chars ";&|"), spell "PATH="],
         row [edge, spell "unset", gap, wordChar]]],
   sign "Alias change" .medium [edge, anyOf ["alias", "unalias"], gap, wordChar],
   sign "Script sourcing" .medium
      [choice
        [row [after (blankItem :: chars ";&|("), spell "source", gap, ink],
         row [choice [opening, row [oneOf ";&|(", room]], spell ".", gap,
          among (wordItem :: chars "~/.$\"'")]]]]

end ShellVet.Threat
