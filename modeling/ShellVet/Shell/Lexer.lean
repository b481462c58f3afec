import ShellVet.Shell.Enclosure
import ShellVet.Shell.Token

/-!
# Reading tokens

The lexer reads one token at a time, because what a word means depends on the tokens before it: a
reserved word is one only where a command may start, digits are a number only beside a redirection,
and a line end also brings the lines of the here-documents that were announced before it.
-/

namespace ShellVet.Shell

/-- A here-document whose lines are still to come. -/
structure PendingDocument where
  /-- Where its redirection stands, in the whole text. -/
  key : Nat
  delimiter : List Char
  stripsTabs : Bool

/-- What the lexer knows besides its place. -/
structure Lexer where
  place : Cursor
  last : Option Token := none
  beforeLast : Option Token := none
  openBraces : Nat := 0
  esacsWanted : Nat := 0
  /-- A pattern of a case may come, so reserved words are not recognised. -/
  casePattern : Bool := false
  /-- The next word may be an opening brace although no command may start there. -/
  braceAllowed : Bool := false
  pending : List PendingDocument := []
  /-- Where the here-documents read so far end, in the whole text. -/
  documents : List (Nat × Nat) := []

/-- A lexer at the start of a text, which gets a line end if it lacks one. -/
def Lexer.ofText (text : List Char) : Lexer :=
  { place := ⟨if text.getLast? = some '\n' then text else text ++ ['\n'], 0⟩ }

/-- Whether the last token has the kind. -/
def Lexer.after (lx : Lexer) (kind : TokenKind) : Bool :=
  lx.last.any (·.kind = kind)

/-- Whether the token before the last has the kind. -/
def Lexer.afterBefore (lx : Lexer) (kind : TokenKind) : Bool :=
  lx.beforeLast.any (·.kind = kind)

/-- Whether a command may start here. -/
def Lexer.atCommand (lx : Lexer) : Bool :=
  lx.last.all (·.opensCommand)

/-- Whether a number may follow as the target of a redirection. -/
def Lexer.afterDuplication (lx : Lexer) : Bool :=
  lx.after (.operator .lessAnd) || lx.after (.operator .greaterAnd)

/-! ## Here-documents -/

/-- The place after the line that ends a here-document; the first argument bounds the number of
lines. -/
def documentEnd (document : PendingDocument) : Nat → Cursor → Except ParseError Cursor
  | 0, place => throw (.undelimited (String.ofList document.delimiter) place.pos)
  | lines + 1, place =>
    match place.line with
    | none =>
      throw (.undelimited (String.ofList document.delimiter) (place.pos + place.rest.length))
    | some (line, after) =>
      let line := if document.stripsTabs then line.dropWhile (· = '\t') else line
      if line = document.delimiter then pure after else documentEnd document lines after

/-- Reads the lines of the documents announced so far. -/
def readDocuments (offset : Nat) :
    List PendingDocument → Cursor → Except ParseError (List (Nat × Nat) × Cursor)
  | [], place => pure ([], place)
  | document :: rest, place => do
    let after ← documentEnd document (place.rest.length + 1) place
    let (ends, place) ← readDocuments offset rest after
    pure ((document.key, offset + after.pos - 1) :: ends, place)

/-- Reads the lines of the documents announced so far. -/
def Lexer.gather (lx : Lexer) (offset : Nat) : Except ParseError Lexer := do
  let (ends, place) ← readDocuments offset lx.pending lx.place
  pure { lx with place := place, pending := [], documents := lx.documents ++ ends }

/-! ## Operators -/

/-- The operator that starts with the character, and the place after it; `none` where the character
starts a process substitution. -/
def operatorFrom (c : Char) (place : Cursor) : Option (Operator × Cursor) :=
  let (following, after) := place.next true
  let third := (after.next true)
  let longer (next : Char) (long short : Operator) : Option (Operator × Cursor) :=
    if third.1 = some next then some (long, third.2) else some (short, third.2.back third.1)
  let single (sign : Operator) : Option (Operator × Cursor) := some (sign, after.back following)
  match c, following with
  | '<', some '<' =>
    if third.1 = some '-' then some (.lessLessDash, third.2)
    else longer '<' .lessLessLess .lessLess
  | '>', some '>' => some (.greaterGreater, after)
  | ';', some ';' => longer '&' .semiSemiAnd .semiSemi
  | '&', some '&' => some (.andIf, after)
  | '|', some '|' => some (.orIf, after)
  | '<', some '&' => some (.lessAnd, after)
  | '>', some '&' => some (.greaterAnd, after)
  | '<', some '>' => some (.lessGreater, after)
  | '>', some '|' => some (.greaterBar, after)
  | '&', some '>' => longer '>' .andGreaterGreater .andGreater
  | '|', some '&' => some (.barAnd, after)
  | ';', some '&' => some (.semiAnd, after)
  | '<', some '(' => none
  | '>', some '(' => none
  | '<', _ => single .less
  | '>', _ => single .greater
  | ';', _ => single .semicolon
  | '&', _ => single .ampersand
  | '|', _ => single .bar
  | '(', _ => single .leftParen
  | _, _ => single .rightParen

/-! ## Words -/

/-- How far the reading of a word has come. The text read is kept in reverse. -/
structure WordScan where
  read : List Char := []
  /-- Digits only so far. -/
  digits : Bool := true
  dollar : Bool := false
  quoted : Bool := false

/-- One more character that stands for itself. -/
def WordScan.push (s : WordScan) (c : Char) : WordScan :=
  { s with
    read := c :: s.read
    digits := s.digits && Text.isDigit c
    dollar := s.dollar || c = '$' }

/-- A group with its opening character or characters. -/
def WordScan.pushGroup (s : WordScan) (opening inner : List Char) : WordScan :=
  { s with read := (opening ++ inner).reverse ++ s.read, digits := false }

/-- Reads the rest of a word from its next character on, which was read already: the word, the
character that ended it, and the place before that character. -/
def wordFrom : Nat → WordScan → Option Char → Cursor →
    Except ParseError (WordScan × Option Char × Cursor)
  | 0, _, _, _ => throw .unreadable
  | _, s, none, place => pure (s, none, place)
  | fuel + 1, s, some c, place =>
    let goOn (s : WordScan) (place : Cursor) :=
      let (c?, place) := place.next true
      wordFrom fuel s c? place
    let stopOrPush (place : Cursor) :=
      if isBreak c then pure (s, some c, place.back (some c)) else goOn (s.push c) place
    if c = '\\' then
      let (following, after) := place.next false
      if following = some '\n' then goOn s after
      else
        let s := { s.push c with quoted := true }
        match following with
        | some d => goOn (s.push d) after
        | none => goOn s after
    else if isQuote c then do
      let (inner, place) ← enclosed (.quote c false) place
      let s := s.pushGroup [c] inner
      goOn
        { s with quoted := true, dollar := s.dollar || (c = '"' && inner.contains '$') } place
    else if c = '$' || c = '<' || c = '>' then do
      let (following, after) := place.next true
      match following with
      | some '(' =>
        let (inner, place) ← dollarGroup '(' after
        goOn { s.pushGroup [c, '('] inner with dollar := true } place
      | some d =>
        if c = '$' && (d = '\x7b' || d = '[') then
          let (inner, place) ← dollarGroup d after
          goOn { s.pushGroup [c, d] inner with dollar := true } place
        else if c = '$' && (d = '\'' || d = '"') then
          let (inner, place) ← enclosed (.quote d true) after
          goOn { s.pushGroup [c, d] inner with quoted := true } place
        else if c = '$' && d = '$' then
          goOn { s.pushGroup [c, d] [] with dollar := true } after
        else stopOrPush (after.back following)
      | none => if c = '$' then throw .unreadable else stopOrPush (after.back following)
    else stopOrPush place

/-- Where the name of an assignment may have its first character. -/
def startsName (c : Char) : Bool :=
  c = '_' || Text.isLetter c

/-- Whether the rest of a text is name characters and then an equals sign, with or without a plus
sign before it. -/
def isAssignmentTail : List Char → Bool
  | [] => false
  | '=' :: _ => true
  | '+' :: '=' :: _ => true
  | c :: rest => Text.isNameChar c && isAssignmentTail rest

/-- Whether the text assigns to a variable. -/
def isAssignment : List Char → Bool
  | [] => false
  | c :: rest => startsName c && isAssignmentTail (c :: rest)

/-- Most digits of a number that a redirection can name. -/
def maxNumberDigits : Nat := 4300

/-- The number that decimal digits write. -/
def numberOf? (digits : List Char) : Option Nat :=
  if digits.all Text.isDecimal && digits.length ≤ maxNumberDigits then
    some (digits.foldl (fun n d => 10 * n + Text.decimalValue d) 0)
  else none

/-- The meaning that the tokens before give to a word, whatever its quotes: the parts of `for`,
`case` and `select`, braces, and the options of `time`. -/
def Lexer.specialWord (lx : Lexer) (text : List Char) : Option Reserved × Lexer :=
  let is (word : String) : Bool := text = word.toList
  let loops := lx.afterBefore (.reserved .forWord) || lx.afterBefore (.reserved .selectWord)
  let cases := lx.afterBefore (.reserved .caseWord)
  if lx.after .word && (loops || cases) && is "in" then
    if cases then
      (some .inWord, { lx with casePattern := true, esacsWanted := lx.esacsWanted + 1 })
    else (some .inWord, lx)
  else if lx.after .word && loops && is "do" then (some .doWord, lx)
  else
    let wanted := lx.esacsWanted
    let lx := { lx with esacsWanted := wanted - 1 }
    if wanted ≠ 0 && is "esac" then (some .esacWord, { lx with casePattern := false })
    else
      let allowed := lx.braceAllowed
      let lx := { lx with braceAllowed := false }
      if allowed && is "\x7b" then
        (some .leftBrace, { lx with openBraces := lx.openBraces + 1 })
      else if lx.openBraces ≠ 0 && lx.atCommand && is "\x7d" then
        (some .rightBrace, { lx with openBraces := lx.openBraces - 1 })
      else if lx.after (.reserved .timeWord) && is "-p" then (some .timeOption, lx)
      else if lx.after (.reserved .timeOption) && is "--" then (some .timeSeparator, lx)
      else (none, lx)

/-- The reserved word that an unquoted text is where a command may start. -/
def Lexer.reservedWord (lx : Lexer) (s : WordScan) (text : List Char) :
    Option Reserved × Lexer :=
  if s.dollar || s.quoted || !lx.atCommand then (none, lx)
  else match Reserved.ofText? text with
    | none => (none, lx)
    | some name =>
      if lx.casePattern && name ≠ .esacWord then (none, lx)
      else match name with
        | .esacWord => (some name, { lx with casePattern := false })
        | .leftBrace => (some name, { lx with openBraces := lx.openBraces + 1 })
        | .rightBrace => (some name, { lx with openBraces := lx.openBraces - 1 })
        | _ => (some name, lx)

/-- Reads a word that starts with a character read already. -/
def Lexer.word (lx : Lexer) (start : Nat) (c : Char) : Except ParseError (Token × Lexer) := do
  let (s, ended, place) ← wordFrom (lx.place.rest.length + 2) {} (some c) lx.place
  let text := s.read.reverse
  let lx := { lx with place := place }
  let token (kind : TokenKind) : Token := ⟨kind, text, start, place.pos, s.quoted⟩
  if s.digits && ended = none then throw .unreadable
  let isNumber := s.digits && (ended = some '<' || ended = some '>' || lx.afterDuplication)
  match if isNumber then numberOf? text else none with
  | some value => return (token (.number value), lx)
  | none =>
    match lx.specialWord text with
    | (some name, lx) => return (token (.reserved name), lx)
    | (none, lx) =>
      match lx.reservedWord s text with
      | (some name, lx) => return (token (.reserved name), lx)
      | (none, lx) =>
        let assigns := isAssignment text && !lx.casePattern &&
          (lx.after .assignment ||
            (lx.atCommand && !lx.after (.operator .semiSemi) && !lx.after (.operator .semiAnd)
              && !lx.after (.operator .semiSemiAnd)))
        let lx :=
          if lx.after (.reserved .functionWord) then { lx with braceAllowed := true } else lx
        return (token (if assigns then .assignment else .word), lx)

/-- Skips blanks and the comment after them. -/
def skipBlanks : Nat → Cursor → Option Char × Cursor
  | 0, place => (none, place)
  | fuel + 1, place =>
    match place.next true with
    | (some c, after) =>
      if isSpace c then skipBlanks fuel after
      else if c = '#' then (after.toLineEnd).next false
      else (some c, after)
    | ended => ended

/-- Reads the next token. -/
def Lexer.token (lx : Lexer) (offset : Nat) : Except ParseError (Token × Lexer) := do
  let (c?, place) := skipBlanks (lx.place.rest.length + 1) lx.place
  let lx := { lx with place := place }
  let some c := c? | return (⟨.endOfText, [], place.pos, place.pos, false⟩, lx)
  let start := place.pos - 1
  if c = '\n' then
    let lx ← lx.gather offset
    return (⟨.lineEnd, ['\n'], start, lx.place.pos, false⟩, lx)
  else if isMeta c then
    match operatorFrom c place with
    | some (sign, after) =>
      let closesEmpty := sign = .rightParen && lx.after (.operator .leftParen)
        && lx.afterBefore .word
      let lx := { lx with
        place := after
        braceAllowed := lx.braceAllowed || closesEmpty
        casePattern :=
          if sign = .semiSemi || sign = .semiAnd || sign = .semiSemiAnd then true
          else if sign = .rightParen then false
          else lx.casePattern }
      return (⟨.operator sign, sign.text.toList, start, after.pos, false⟩, lx)
    | none => lx.word start c
  else if c = '-' && lx.afterDuplication then
    return (⟨.operator .dash, ['-'], start, place.pos, false⟩, lx)
  else lx.word start c

/-- Reads the next token and remembers it. -/
def Lexer.read (lx : Lexer) (offset : Nat) : Except ParseError (Token × Lexer) := do
  let (token, lx) ← lx.token offset
  return (token, { lx with beforeLast := lx.last, last := some token })

end ShellVet.Shell
