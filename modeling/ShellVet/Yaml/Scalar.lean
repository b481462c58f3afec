import ShellVet.Decimal.Read
import ShellVet.Text.Codes
import ShellVet.Yaml.Error
import ShellVet.Yaml.Place

/-!
# Scalars

How texts stand in YAML: between quotes, plain, or as a block of lines. Each reader starts at the
first character and gives the text with the place after it. Line breaks inside a scalar are folded:
a single one becomes a blank, and of several the first one goes.
-/

namespace ShellVet.Yaml

/-- The folded form of a line break and the breaks after it. -/
def foldBreaks (first : List Char) (more : List Char) : List Char :=
  if first != ['\n'] then first ++ more else if more.isEmpty then [' '] else more

/-! ## Quoted scalars -/

/-- The character of an escape letter. -/
def escapeOf? : Char → Option Char
  | '0' => some '\x00'
  | 'a' => some '\x07'
  | 'b' => some '\x08'
  | 't' => some '\t'
  | '\t' => some '\t'
  | 'n' => some '\n'
  | 'v' => some '\x0b'
  | 'f' => some '\x0c'
  | 'r' => some '\r'
  | 'e' => some '\x1b'
  | ' ' => some ' '
  | '"' => some '"'
  | '\\' => some '\\'
  | '/' => some '/'
  | 'N' => some '\x85'
  | '_' => some '\xa0'
  | 'L' => some '\u2028'
  | 'P' => some '\u2029'
  | _ => none

/-- The number of digits after an escape letter for code points. -/
def codeLength? : Char → Option Nat
  | 'x' => some 2
  | 'u' => some 4
  | 'U' => some 8
  | _ => none

/-- Whether the character is a hexadecimal digit. -/
def isHexDigit (c : Char) : Bool := ((Decimal.digitValue? c).filter (· < 16)).isSome

/-- The code point of a number in hexadecimal digits. The halves of a pair stay apart. -/
def pointOfDigits (digits : List Char) : Except Fault CodePoint :=
  let code := Decimal.ofDigits 16 digits
  if 0x80000000 ≤ code then .error .hugeCodePoint
  else if 0x110000 ≤ code then .error .codePoint
  else .ok (.ofCode code)

/-- The line breaks between lines of a quoted scalar, with the place of the next text. A mark
between documents may not come first on a line. -/
def quotedBreaks : Nat → Place → Except Fault (List Char × Place)
  | 0, _ => .error .malformed
  | fuel + 1, place =>
    if place.separates then .error .malformed
    else
      let place := place.skip isGap
      if isBreak place.next then do
        let (first, after) := place.lineBreak
        let (more, last) ← quotedBreaks fuel after
        return (first ++ more, last)
      else .ok ([], place)

/-- White space inside a quoted scalar. -/
def quotedGap (place : Place) : Except Fault (List Char × Place) :=
  let gap := place.ahead isGap
  let after := place.skip isGap
  if after.rest.isEmpty then .error .malformed
  else if isBreak after.next then do
    let (first, after) := after.lineBreak
    let (more, last) ← quotedBreaks (after.rest.length + 1) after
    return (foldBreaks first more, last)
  else .ok (gap, after)

/-- An escape of a scalar between quotation marks, from after its backslash. -/
def quotedEscape (place : Place) : Except Fault (List CodePoint × Place) :=
  match escapeOf? place.next, codeLength? place.next with
  | some c, _ => .ok ([.char c], place.step)
  | none, some count =>
    let digits := place.step.rest.take count
    if digits.length = count && digits.all isHexDigit then do
      return ([← pointOfDigits digits], place.steps (count + 1))
    else .error .malformed
  | none, none =>
    if isBreak place.next then do
      let (_, after) := place.lineBreak
      let (breaks, after) ← quotedBreaks (after.rest.length + 1) after
      return (breaks.map .char, after)
    else .error .malformed

/-- A quoted scalar from after its quote, behind the reversed text `done`. -/
def quotedFrom (quote : Char) : Nat → List CodePoint → Place → Except Fault (CodeText × Place)
  | 0, _, _ => .error .malformed
  | fuel + 1, done, place =>
    let c := place.next
    if c == '\'' && quote == '\'' && place.look 1 == '\'' then
      quotedFrom quote fuel (.char '\'' :: done) (place.steps 2)
    else if place.rest.isEmpty then .error .malformed
    else if c == quote then .ok (⟨done.reverse⟩, place.step)
    else if c == '\\' && quote == '"' then do
      let (text, after) ← quotedEscape place.step
      quotedFrom quote fuel (text.reverse ++ done) after
    else if isGapEnd c then do
      let (text, after) ← quotedGap place
      quotedFrom quote fuel ((text.map .char).reverse ++ done) after
    else quotedFrom quote fuel (.char c :: done) place.step

/-- A quoted scalar. -/
def quotedScalar (place : Place) : Except Fault (CodeText × Place) :=
  quotedFrom place.next (2 * place.rest.length + 2) [] place.step

/-! ## Plain scalars -/

/-- The characters of a plain scalar up to a gap, a comment sign behind a gap, or, in brackets, a
sign of the brackets. -/
def plainRun (inFlow : Bool) : List Char → List Char
  | [] => []
  | c :: rest =>
    let after := rest.head?.getD endChar
    let colonEnds := isGapEnd after || (inFlow && after ∈ [',', '[', ']', '\x7b', '\x7d'])
    if isGapEnd c || (c == ':' && colonEnds) ||
        (inFlow && c ∈ [',', '?', '[', ']', '\x7b', '\x7d']) then []
    else c :: plainRun inFlow rest

/-- Line breaks between lines of a plain scalar, with blanks; none if a mark between documents
follows. -/
def plainBreaks : Nat → Place → Option (List Char) × Place
  | 0, place => (some [], place)
  | fuel + 1, place =>
    if place.next == ' ' then plainBreaks fuel place.step
    else if isBreak place.next then
      let (first, after) := place.lineBreak
      if after.separates then (none, after)
      else
        let (more, last) := plainBreaks fuel after
        (more.map (first ++ ·), last)
    else (some [], place)

/-- What stands between two runs of a plain scalar: its folded form, whether it has a line break,
and the place after it. An empty form ends the scalar. -/
def plainGap (place : Place) : List Char × Bool × Place :=
  let gap := place.ahead (· == ' ')
  let after := place.skipBlanks
  if isBreak after.next then
    let (first, after) := after.lineBreak
    if after.separates then ([], true, after)
    else
      match plainBreaks (after.rest.length + 1) after with
      | (some more, last) => (foldBreaks first more, true, last)
      | (none, last) => ([], true, last)
  else (gap, false, after)

/-- A plain scalar, behind the reversed text `done` and the gap after it. Lines have to start at
`indent` or further right, except in brackets. Also gives whether it ends behind a line break. -/
def plainFrom (inFlow : Bool) (indent : Nat) :
    Nat → List Char → List Char → Bool → Place → List Char × Bool × Place
  | 0, done, _, broken, place => (done.reverse, broken, place)
  | fuel + 1, done, gap, broken, place =>
    let run := if place.next == '#' then [] else plainRun inFlow place.rest
    if run.isEmpty then (done.reverse, broken, place)
    else
      let done := run.reverse ++ gap.reverse ++ done
      let (gap, broken, after) := plainGap (place.steps run.length)
      if gap.isEmpty || after.next == '#' || (!inFlow && after.column < indent) then
        (done.reverse, broken, after)
      else plainFrom inFlow indent fuel done gap broken after

/-- A plain scalar. -/
def plainScalar (inFlow : Bool) (indent : Nat) (place : Place) : List Char × Bool × Place :=
  plainFrom inFlow indent (place.rest.length + 1) [] [] false place

/-! ## Block scalars -/

/-- What becomes of the line breaks at the end of a block scalar. -/
inductive Chomping where
  | strip
  | clip
  | keep
  deriving DecidableEq, Repr

/-- The chomping of a sign. -/
def chompingOf? : Char → Option Chomping
  | '+' => some .keep
  | '-' => some .strip
  | _ => none

/-- The indentation of a digit; zero is not one. -/
def indentationOf (c : Char) : Except Fault Nat :=
  if c == '0' then .error .malformed else .ok (c.toNat - 48)

/-- The signs of a block scalar, in either order. -/
def blockSigns (place : Place) : Except Fault (Chomping × Option Nat × Place) := do
  match chompingOf? place.next with
  | some chomping =>
    let after := place.step
    if after.next.isDigit then return (chomping, some (← indentationOf after.next), after.step)
    else return (chomping, none, after)
  | none =>
    if place.next.isDigit then
      let indentation ← indentationOf place.next
      let after := place.step
      match chompingOf? after.next with
      | some chomping => return (chomping, some indentation, after.step)
      | none => return (.clip, some indentation, after)
    else return (.clip, none, place)

/-- The rest of a line that may hold a comment only. -/
def restOfLine (place : Place) : Except Fault Place :=
  let place := place.skipBlanks
  let place := if place.next == '#' then place.skipLine else place
  if isLineEnd place.next then .ok place.lineBreak.2 else .error .malformed

/-- Empty lines at the start of a block scalar, and the greatest column that blanks reach. -/
def leadingBreaks : Nat → Nat → Place → List Char × Nat × Place
  | 0, widest, place => ([], widest, place)
  | fuel + 1, widest, place =>
    if place.next == ' ' then
      let after := place.step
      leadingBreaks fuel (max widest after.column) after
    else if isBreak place.next then
      let (first, after) := place.lineBreak
      let (more, widest, last) := leadingBreaks fuel widest after
      (first ++ more, widest, last)
    else ([], widest, place)

/-- The place after blanks up to a column. -/
def Place.skipTo (place : Place) (column : Nat) : Place :=
  place.steps (min (column - place.column) (place.ahead (· == ' ')).length)

/-- Empty lines inside a block scalar, up to the indentation of the next line. -/
def blockBreaks (indent : Nat) : Nat → Place → List Char × Place
  | 0, place => ([], place)
  | fuel + 1, place =>
    let place := place.skipTo indent
    if isBreak place.next then
      let (first, after) := place.lineBreak
      let (more, last) := blockBreaks indent fuel after
      (first ++ more, last)
    else ([], place)

/-- The lines of a block scalar, behind the reversed text `done` and the empty lines before the next
line. Gives the text, the last line break and the empty lines after it. -/
def blockLines (folded : Bool) (indent : Nat) :
    Nat → List Char → List Char → Place → List Char × List Char × List Char × Place
  | 0, done, breaks, place => (done, [], breaks, place)
  | fuel + 1, done, breaks, place =>
    let flush := !isGap place.next
    let line := place.ahead fun c => !isBreak c
    let done := line.reverse ++ breaks.reverse ++ done
    let (lineBreak, after) := (place.steps line.length).lineBreak
    let (breaks, after) := blockBreaks indent (after.rest.length + 1) after
    if after.column = indent && !after.rest.isEmpty then
      let joined :=
        if folded && lineBreak == ['\n'] && flush && !isGap after.next then
          if breaks.isEmpty then [' '] else []
        else lineBreak
      blockLines folded indent fuel (joined.reverse ++ done) breaks after
    else (done, lineBreak, breaks, after)

/-- A block scalar, from after its sign. Its lines start further right than `parent`, which counts
from one. -/
def blockScalar (folded : Bool) (parent : Nat) (place : Place) :
    Except Fault (List Char × Place) := do
  let (chomping, indentation, place) ← blockSigns place
  if !isBlankEnd place.next then throw .malformed
  let place ← restOfLine place
  let least := max parent 1
  let fuel := place.rest.length + 1
  let (indent, breaks, place) := match indentation with
    | none =>
      let (breaks, widest, after) := leadingBreaks fuel 0 place
      (max least widest, breaks, after)
    | some indentation =>
      let indent := least + indentation - 1
      let (breaks, after) := blockBreaks indent fuel place
      (indent, breaks, after)
  let (done, lineBreak, breaks, place) :=
    if place.column = indent && !place.rest.isEmpty then
      blockLines folded indent fuel [] breaks place
    else ([], [], breaks, place)
  let tail := match chomping with
    | .strip => []
    | .clip => lineBreak
    | .keep => lineBreak ++ breaks
  return (done.reverse ++ tail, place)

end ShellVet.Yaml
