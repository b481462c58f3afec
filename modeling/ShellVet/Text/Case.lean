import ShellVet.Text.CaseTable
import ShellVet.Text.CasedTable
import ShellVet.Text.FoldTable

/-!
# Letter case

`lowerChar` maps one character to one character and serves caseless matching; `lower` and `upper`
are the mappings of whole texts, which may lengthen the text and look at neighbours: a capital
sigma at the end of a word becomes the final form.
-/

namespace ShellVet.Text

/-- The image of a code point under a list of runs; the code point itself where no run holds it. -/
def CaseRun.apply (runs : List CaseRun) (code : Nat) : Nat :=
  match runs.find? fun run =>
      run.first ≤ code && code ≤ run.last && (code - run.first) % run.step == 0 with
  | some run => ((code : Int) + run.distance).toNat
  | none => code

/-- The lower case of a character, as one character. -/
def lowerChar (c : Char) : Char :=
  if c.toNat < 128 then c.toLower
  else if c.toNat = 304 then 'i'
  else Char.ofNat (CaseRun.apply lowerRuns c.toNat)

/-- Whether a letter has a case. -/
def isCased (c : Char) : Bool :=
  if c.toNat < 128 then c.isAlpha else casedRanges.has c.toNat

/-- Whether the search for a cased neighbour passes over the character. -/
def isCaseIgnorable (c : Char) : Bool :=
  caseIgnorableRanges.has c.toNat

/-- Whether the character is a lower case letter. -/
def isLowercase (c : Char) : Bool :=
  if c.toNat < 128 then c.isLower else lowercaseRanges.has c.toNat

/-- Whether the first character that case does not ignore has a case. -/
def meetsCased (text : List Char) : Bool :=
  match text.dropWhile isCaseIgnorable with
  | [] => false
  | c :: _ => isCased c

/-- The lower case of one character between the reversed text before it and the text after it. -/
def lowerWithin (before : List Char) (c : Char) (after : List Char) : List Char :=
  if c.toNat = 304 then ['i', Char.ofNat 775]
  else if c.toNat = 931 then
    if meetsCased before && !meetsCased after then [Char.ofNat 962] else [Char.ofNat 963]
  else [lowerChar c]

/-- Lower case of the rest of a text, given the reversed text before it. -/
def lowerFrom (before : List Char) : List Char → List Char
  | [] => []
  | c :: rest => lowerWithin before c rest ++ lowerFrom (c :: before) rest

/-- The text in lower case. -/
def lower (text : List Char) : List Char :=
  lowerFrom [] text

/-- The upper case of a character, which may be several. -/
def upperChar (c : Char) : List Char :=
  if c.toNat < 128 then [c.toUpper]
  else match longUppers.lookup c.toNat with
    | some codes => codes.map Char.ofNat
    | none => [Char.ofNat (CaseRun.apply upperRuns c.toNat)]

/-- The text in upper case. -/
def upper (text : List Char) : List Char :=
  text.flatMap upperChar

/-- The characters whose lower case, as one character, is the given one. -/
def lowerSources (c : Char) : List Char :=
  let capitals := lowerRuns.filterMap fun run =>
    let source := ((c.toNat : Int) - run.distance).toNat
    if run.first ≤ source && source ≤ run.last && (source - run.first) % run.step == 0 then
      some (Char.ofNat source)
    else none
  let dotted := if c == 'i' then [Char.ofNat 304] else []
  if lowerChar c == c then c :: capitals ++ dotted else capitals ++ dotted

/-- The other lower case characters that a caseless match treats as the same. -/
def caseFamily (c : Char) : List Char :=
  ((caseFamilies.lookup c.toNat).getD []).map Char.ofNat

end ShellVet.Text
