import ShellVet.Text.Utf8
import ShellVet.Yaml.Scalar
import ShellVet.Yaml.Token

/-!
# Reading tokens

The lexer goes through the text once. It keeps the columns of the open blocks, how deep it is in
brackets, and for each depth the token that may turn out to be a key: only a value sign on the same
line says so, and then the key token is put in before it. A fault ends the tokens; it counts only if
the tokens before it are read.
-/

namespace ShellVet.Yaml

/-- A token that may turn out to be a key. -/
structure KeyCandidate where
  /-- Number of tokens before it. -/
  number : Nat
  required : Bool
  index : Nat
  line : Nat
  column : Nat
  deriving Repr

/-- The state of the lexer. Columns of blocks count from one; zero stands for no block. -/
structure Lexer where
  place : Place
  /-- The tokens so far, the latest first. -/
  tokens : List Token := []
  depth : Nat := 0
  indent : Nat := 0
  outer : List Nat := []
  keyAllowed : Bool := true
  /-- The candidates by depth. -/
  candidates : List (Nat × KeyCandidate) := []

namespace Lexer

/-- A step of reading. -/
abbrev Step := Except Fault Lexer

/-- Appends a token. -/
def push (lexer : Lexer) (token : Token) : Lexer :=
  { lexer with tokens := token :: lexer.tokens }

/-- Puts a token behind the first `number` ones. -/
def insertAt (lexer : Lexer) (number : Nat) (token : Token) : Lexer :=
  let later := lexer.tokens.length - number
  { lexer with tokens := lexer.tokens.take later ++ token :: lexer.tokens.drop later }

/-- Goes some characters on. -/
def advance (lexer : Lexer) (count : Nat) : Lexer :=
  { lexer with place := lexer.place.steps count }

/-- The column, counted from one. -/
def column (lexer : Lexer) : Nat := lexer.place.column + 1

/-- Longest distance between a key and its value sign. -/
def longestKey : Nat := 1024

/-- Drops the candidates of earlier lines and those too far back. -/
def dropStale (lexer : Lexer) : Step :=
  let isStale (candidate : KeyCandidate) :=
    candidate.line != lexer.place.line || lexer.place.index - candidate.index > longestKey
  if lexer.candidates.any fun entry => isStale entry.2 && entry.2.required then .error .malformed
  else
    .ok { lexer with candidates := lexer.candidates.filter fun entry => !isStale entry.2 }

/-- Drops the candidate of the present depth. -/
def dropCandidate (lexer : Lexer) : Step :=
  match lexer.candidates.lookup lexer.depth with
  | none => .ok lexer
  | some candidate =>
    if candidate.required then .error .malformed
    else .ok
      { lexer with candidates := lexer.candidates.filter fun entry => entry.1 != lexer.depth }

/-- Makes the next token a candidate, where keys are allowed. -/
def saveCandidate (lexer : Lexer) : Step := do
  if !lexer.keyAllowed then return lexer
  let lexer ← lexer.dropCandidate
  let place := lexer.place
  let candidate : KeyCandidate :=
    { number := lexer.tokens.length
      required := lexer.depth = 0 && lexer.indent = lexer.column
      index := place.index, line := place.line, column := lexer.column }
  return { lexer with candidates := (lexer.depth, candidate) :: lexer.candidates }

/-- Closes the blocks that start right of a column. -/
def unwindTo (column : Nat) : List Nat → Lexer → Lexer
  | [], lexer => lexer
  | outer :: rest, lexer =>
    if lexer.indent > column then
      unwindTo column rest
        { lexer with indent := outer, outer := rest, tokens := .blockEnd :: lexer.tokens }
    else lexer

/-- Closes the blocks that start right of a column, outside of brackets. -/
def unwind (lexer : Lexer) (column : Nat) : Lexer :=
  if lexer.depth = 0 then unwindTo column lexer.outer lexer else lexer

/-- Opens a block at a column, unless one is open there; and whether it did. -/
def openBlock (lexer : Lexer) (column : Nat) : Bool × Lexer :=
  if lexer.indent < column then
    (true, { lexer with indent := column, outer := lexer.indent :: lexer.outer })
  else (false, lexer)

/-- The place of the next token. Outside of brackets a new line allows keys. -/
def skipToToken : Nat → Lexer → Lexer
  | 0, lexer => lexer
  | fuel + 1, lexer =>
    let place := lexer.place.skipBlanks
    let place := if place.next == '#' then place.skipLine else place
    if isBreak place.next then
      skipToToken fuel
        { lexer with
          place := place.lineBreak.2, keyAllowed := lexer.keyAllowed || lexer.depth = 0 }
    else { lexer with place }

/-! ## Single tokens -/

/-- Whether the character may stand in the name of an anchor or a handle. -/
def isNameChar (c : Char) : Bool := c.isAlphanum || c == '-' || c == '_'

/-- Whether the character may stand in the rest of a tag. -/
def isTagChar (c : Char) : Bool :=
  c.isAlphanum || c ∈ "-;/?:@&=+$,_.!~*'()[]".toList

/-- The bytes of escapes in a tag, each a percent sign and two digits. -/
def escapedBytes : Nat → Place → Except Fault (List UInt8 × Place)
  | 0, place => .ok ([], place)
  | fuel + 1, place =>
    if place.next == '%' then
      let digits := place.step.rest.take 2
      if digits.length = 2 && digits.all isHexDigit then do
        let (more, last) ← escapedBytes fuel (place.steps 3)
        return (UInt8.ofNat (Decimal.ofDigits 16 digits) :: more, last)
      else .error .malformed
    else .ok ([], place)

/-- The rest of a tag. -/
def tagRest : Nat → Place → Except Fault (List Char × Place)
  | 0, place => .ok ([], place)
  | fuel + 1, place =>
    if isTagChar place.next then do
      let (more, last) ← tagRest fuel place.step
      return (place.next :: more, last)
    else if place.next == '%' then do
      let (bytes, after) ← escapedBytes fuel place
      match Text.decode bytes with
      | .error _ => throw .malformed
      | .ok chars =>
        let (more, last) ← tagRest fuel after
        return (chars ++ more, last)
    else .ok ([], place)

/-- The rest of a tag, which may not be empty. -/
def tagSuffix (place : Place) : Except Fault (String × Place) := do
  let (chars, after) ← tagRest (place.rest.length + 1) place
  if after.index = place.index then throw .malformed
  return (String.ofList chars, after)

/-- The handle of a tag. -/
def tagHandle (place : Place) : Except Fault (String × Place) :=
  if place.next != '!' then .error .malformed
  else if place.look 1 == ' ' then .ok ("!", place.step)
  else
    let name := place.step.ahead isNameChar
    let after := place.steps (name.length + 1)
    if after.next == '!' then .ok ("!" ++ String.ofList name ++ "!", after.step)
    else .error .malformed

/-- A number of a directive. -/
def directiveNumber (place : Place) : Except Fault (Nat × Place) :=
  let digits := place.ahead Char.isDigit
  if digits.isEmpty then .error .malformed
  else .ok (Decimal.ofDigits 10 digits, place.steps digits.length)

/-- A directive, from its sign to the end of its line. -/
def directive (place : Place) : Except Fault (Directive × Place) := do
  let name := place.step.ahead isNameChar
  let after := place.steps (name.length + 1)
  if name.isEmpty || !isBlankEnd after.next then throw .malformed
  let (found, after) ←
    if name == ['Y', 'A', 'M', 'L'] then do
      let (major, after) ← directiveNumber after.skipBlanks
      if after.next != '.' then throw .malformed
      let (_, after) ← directiveNumber after.step
      if !isBlankEnd after.next then throw .malformed
      pure (Directive.version major, after)
    else if name == ['T', 'A', 'G'] then do
      let (handle, after) ← tagHandle after.skipBlanks
      if after.next != ' ' then throw .malformed
      let (tagPrefix, after) ← tagSuffix after.skipBlanks
      if !isBlankEnd after.next then throw .malformed
      pure (Directive.tag handle tagPrefix, after)
    else pure (Directive.other, after.skipLine)
  return (found, ← restOfLine after)

/-- The name of an anchor or alias, from after its sign. -/
def anchorName (place : Place) : Except Fault (String × Place) :=
  let name := place.ahead isNameChar
  let after := place.steps name.length
  if name.isEmpty ||
      !(isGapEnd after.next || after.next ∈ ['?', ':', ',', ']', '\x7d', '%', '@', '\x60']) then
    .error .malformed
  else .ok (String.ofList name, after)

/-- Whether the text up to the next blank or end holds a second exclamation mark. -/
def hasHandle (place : Place) : Bool :=
  (place.step.ahead fun c => !isBlankEnd c).contains '!'

/-- A tag. -/
def tag (place : Place) : Except Fault (Token × Place) := do
  let (token, after) ←
    if place.look 1 == '<' then do
      let (suffix, after) ← tagSuffix (place.steps 2)
      if after.next != '>' then throw .malformed
      pure (Token.tag none suffix, after.step)
    else if isGapEnd (place.look 1) then pure (Token.tag none "!", place.step)
    else if hasHandle place then do
      let (handle, after) ← tagHandle place
      let (suffix, after) ← tagSuffix after
      pure (Token.tag (some handle) suffix, after)
    else do
      let (suffix, after) ← tagSuffix place.step
      pure (Token.tag (some "!") suffix, after)
  if !isBlankEnd after.next then throw .malformed
  return (token, after)

/-! ## Steps of the lexer -/

/-- Ends all blocks before a line that stands outside of documents. -/
def endBlocks (lexer : Lexer) : Step := do
  let lexer ← (lexer.unwind 0).dropCandidate
  return { lexer with keyAllowed := false }

/-- A token that may turn out to be a key. -/
def keyToken (lexer : Lexer) (read : Place → Except Fault (Token × Place)) : Step := do
  let lexer ← lexer.saveCandidate
  let (token, place) ← read lexer.place
  return { lexer with place, tokens := token :: lexer.tokens, keyAllowed := false }

/-- An opening bracket. -/
def openBracket (lexer : Lexer) (token : Token) : Step := do
  let lexer ← lexer.saveCandidate
  return { (lexer.push token).advance 1 with depth := lexer.depth + 1, keyAllowed := true }

/-- A closing bracket. Without an opening one it is refused later, by the structure. -/
def closeBracket (lexer : Lexer) (token : Token) : Step := do
  let lexer ← lexer.dropCandidate
  return { (lexer.push token).advance 1 with depth := lexer.depth - 1, keyAllowed := false }

/-- A comma between brackets. -/
def flowEntry (lexer : Lexer) : Step := do
  let lexer ← lexer.dropCandidate
  return { (lexer.push .flowEntry).advance 1 with keyAllowed := true }

/-- A sign that opens a block of a kind, unless one is open. -/
def blockSign (lexer : Lexer) (start : Token) : Step :=
  if lexer.depth > 0 then .ok lexer
  else if !lexer.keyAllowed then .error .malformed
  else
    let (opened, lexer) := lexer.openBlock lexer.column
    .ok (if opened then lexer.push start else lexer)

/-- An entry sign. -/
def blockEntry (lexer : Lexer) : Step := do
  let lexer ← lexer.blockSign .blockSequenceStart
  let lexer ← lexer.dropCandidate
  return { (lexer.push .blockEntry).advance 1 with keyAllowed := true }

/-- A sign of a key or value that is not on one line. -/
def complexSign (lexer : Lexer) (token : Token) : Step := do
  let lexer ← lexer.blockSign .blockMappingStart
  let lexer ← lexer.dropCandidate
  return { (lexer.push token).advance 1 with keyAllowed := lexer.depth = 0 }

/-- A value sign. The candidate, if there is one, becomes a key. -/
def valueSign (lexer : Lexer) : Step :=
  match lexer.candidates.lookup lexer.depth with
  | none => lexer.complexSign .value
  | some candidate =>
    let lexer :=
      { lexer with
        candidates := lexer.candidates.filter fun entry => entry.1 != lexer.depth
        keyAllowed := false }
    let lexer := lexer.insertAt candidate.number .key
    let (opened, lexer) :=
      if lexer.depth = 0 then lexer.openBlock candidate.column else (false, lexer)
    let lexer := if opened then lexer.insertAt candidate.number .blockMappingStart else lexer
    .ok ((lexer.push .value).advance 1)

/-- A block scalar. -/
def blockScalarToken (lexer : Lexer) (folded : Bool) : Step := do
  let lexer ← ({ lexer with keyAllowed := true } : Lexer).dropCandidate
  let (text, place) ← blockScalar folded lexer.indent lexer.place.step
  return { lexer with place, tokens := .scalar (.ofChars text) false :: lexer.tokens }

/-- A plain scalar. It allows a key behind it if it ends behind a line break. -/
def plainToken (lexer : Lexer) : Step := do
  let lexer ← lexer.saveCandidate
  let (text, broken, place) := plainScalar (lexer.depth > 0) lexer.indent lexer.place
  return { lexer with
    place, tokens := .scalar (.ofChars text) true :: lexer.tokens, keyAllowed := broken }

/-- Whether a plain scalar may start here. -/
def startsPlain (lexer : Lexer) : Bool :=
  let c := lexer.place.next
  let indicators := "-?:,[]\x7b\x7d#&*!|>'\"%@\x60".toList
  !(isGapEnd c || c ∈ indicators) ||
    (!isGapEnd (lexer.place.look 1) && (c == '-' || (lexer.depth = 0 && (c == '?' || c == ':'))))

/-- A mark between documents. -/
def documentMark (lexer : Lexer) (token : Token) : Step := do
  let lexer ← lexer.endBlocks
  return (lexer.push token).advance 3

/-- A directive. -/
def directiveToken (lexer : Lexer) : Step := do
  let lexer ← lexer.endBlocks
  let (found, place) ← directive lexer.place
  return { lexer with place, tokens := .directive found :: lexer.tokens }

/-- The token at the place, which is no blank. -/
def token (lexer : Lexer) : Step :=
  let place := lexer.place
  let c := place.next
  let gapAfter := isGapEnd (place.look 1)
  let named (read : String → Token) (place : Place) : Except Fault (Token × Place) :=
    (anchorName place.step).map fun (name, after) => (read name, after)
  let quoted (place : Place) : Except Fault (Token × Place) :=
    (quotedScalar place).map fun (text, after) => (.scalar text false, after)
  if c == '%' && place.column = 0 then lexer.directiveToken
  else if place.column = 0 && place.marks '-' then lexer.documentMark .documentStart
  else if place.column = 0 && place.marks '.' then lexer.documentMark .documentEnd
  else if c == '[' then lexer.openBracket .flowSequenceStart
  else if c == '\x7b' then lexer.openBracket .flowMappingStart
  else if c == ']' then lexer.closeBracket .flowSequenceEnd
  else if c == '\x7d' then lexer.closeBracket .flowMappingEnd
  else if c == ',' then lexer.flowEntry
  else if c == '-' && gapAfter then lexer.blockEntry
  else if c == '?' && (lexer.depth > 0 || gapAfter) then lexer.complexSign .key
  else if c == ':' && (lexer.depth > 0 || gapAfter) then lexer.valueSign
  else if c == '*' then lexer.keyToken (named .alias)
  else if c == '&' then lexer.keyToken (named .anchor)
  else if c == '!' then lexer.keyToken tag
  else if c == '|' && lexer.depth = 0 then lexer.blockScalarToken false
  else if c == '>' && lexer.depth = 0 then lexer.blockScalarToken true
  else if c == '\'' || c == '"' then lexer.keyToken quoted
  else if lexer.startsPlain then lexer.plainToken
  else .error .malformed

/-- Reads tokens to the end of the text. -/
def run : Nat → Lexer → List Token × Option Fault
  | 0, lexer => (lexer.tokens.reverse, some .malformed)
  | fuel + 1, lexer =>
    let skipped := skipToToken (lexer.place.rest.length + 1) lexer
    match skipped.dropStale with
    | .error fault => (skipped.tokens.reverse, some fault)
    | .ok current =>
      let current := current.unwind current.column
      if current.place.rest.isEmpty then
        match (current.unwind 0).dropCandidate with
        | .ok last => ((Token.streamEnd :: last.tokens).reverse, none)
        | .error fault => (current.tokens.reverse, some fault)
      else
        match current.token with
        | .ok after => run fuel after
        | .error fault => (current.tokens.reverse, some fault)

end Lexer

/-- The tokens of a text, and the fault that ends them, if one does. A byte order mark at the start
is no part of the text. -/
def tokensOf (text : List Char) : List Token × Option Fault :=
  let place : Place := { rest := text }
  let place := if place.next == '\ufeff' then place.step else place
  Lexer.run (2 * text.length + 2) { place }

end ShellVet.Yaml
