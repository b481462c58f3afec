/-!
# Sets of code points as ranges

A character class of the Unicode standard is held as its list of ranges. Membership reads the list
from the front; callers answer for ASCII first, so the list is reached by other characters only.
-/

namespace ShellVet.Text

/-- Inclusive ranges of code points. -/
abbrev Ranges := List (Nat × Nat)

/-- Whether some range holds the code point. -/
def Ranges.has (ranges : Ranges) (code : Nat) : Bool :=
  ranges.any fun range => range.1 ≤ code && code ≤ range.2

end ShellVet.Text
