import ShellVet.Regex.Match
import ShellVet.Signature.Phrase

/-!
# Names of packages

A name starts with a letter or a digit and goes on with those and a few signs. Case does not count.
-/

namespace ShellVet.Source

open Regex Phrase

/-- The pattern of package names. -/
def packageName : Regex :=
  let alphanumeric : List CharItem := [.range 'a' 'z', .range '0' '9']
  (row
    [opening, among alphanumeric, many (among (alphanumeric ++ chars "-_@/.")), ending]).caseless

/-- Longest name of a package. -/
def longestPackageName : Nat := 128

/-- Whether a text can name a package. -/
def isPackageName (name : String) : Bool :=
  (packageName.matchAt (.start name.toList)).isSome && name.length ≤ longestPackageName

end ShellVet.Source
