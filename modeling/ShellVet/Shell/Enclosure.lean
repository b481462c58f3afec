import ShellVet.Shell.Cursor
import ShellVet.Shell.Error
import ShellVet.Text.Case

/-!
# Enclosed text inside words

Quotes and brackets protect what they enclose, so a word can hold blanks and operators. `enclosed`
reads to the closer of a quote, a brace or a square bracket, and `substitution` to the parenthesis
that closes a command substitution, whose inside may hold comments, here-documents and the
unbalanced parentheses of a case. Both give the text read, closer included, and the place after it.
-/

namespace ShellVet.Shell

/-- What is being closed. -/
structure Enclosure where
  opener : Char
  closer : Char
  /-- Inside an apostrophe a backslash protects nothing, unless a dollar stands before. -/
  escapes : Bool := true
  /-- Lines are joined everywhere but inside apostrophes. -/
  joins : Bool := true
  /-- The first closer ends the text, whatever was opened in between. -/
  firstCloser : Bool := false

/-- The enclosure that a quote opens; after a dollar an apostrophe lets a backslash escape. -/
def Enclosure.quote (c : Char) (afterDollar : Bool) : Enclosure :=
  ⟨c, c, c ≠ '\'' || afterDollar, c ≠ '\'', false⟩

/-- The enclosure of a parameter expansion. -/
def Enclosure.braces : Enclosure := ⟨'\x7b', '\x7d', true, true, true⟩

/-- The enclosure of an old arithmetic expansion. -/
def Enclosure.brackets : Enclosure := ⟨'[', ']', true, true, false⟩

/-- The enclosure of an arithmetic expansion, seen as nested parentheses. -/
def Enclosure.parentheses : Enclosure := ⟨'(', ')', true, true, false⟩

/-- How far the reading of an enclosure has come. The text read is kept in reverse. -/
structure EnclosureScan where
  depth : Nat := 1
  /-- The character before was a backslash that protects. -/
  escaped : Bool := false
  /-- The character before was a dollar. -/
  dollar : Bool := false
  read : List Char := []

/-- The nesting depth after one more character. -/
def Enclosure.depthAfter (e : Enclosure) (s : EnclosureScan) (c : Char) : Nat :=
  if c = e.closer then s.depth - 1
  else if e.opener ≠ e.closer && s.dollar && e.opener = '\x7b' && c = e.opener then s.depth + 1
  else if !e.firstCloser && c = e.opener then s.depth + 1
  else s.depth

/-- How far the reading of a command substitution has come. The text read is kept in reverse. -/
structure SubstitutionScan where
  depth : Nat := 1
  escaped : Bool := false
  dollar : Bool := false
  read : List Char := []
  comment : Bool := false
  /-- The characters of the current word before the last one read; `none` between words. -/
  word : Option Nat := none
  /-- A reserved word may come next, and how many of its letters were read. -/
  reservedAllowed : Bool := true
  reservedLength : Nat := 0
  /-- Inside a case, where a parenthesis ends a pattern. -/
  inCase : Bool := false
  /-- After the operator of a here-document, until its lines begin. -/
  wantsDelimiter : Bool := false
  delimiter : Option (List Char) := none
  stripsTabs : Bool := false
  /-- Inside the lines of a here-document. -/
  inDocument : Bool := false
  /-- Where in the text read the delimiter or the current line starts. -/
  mark : Option Nat := none

/-- One more character read. -/
def SubstitutionScan.push (s : SubstitutionScan) (c : Char) : SubstitutionScan :=
  { s with read := c :: s.read }

/-- The text read since the mark. -/
def SubstitutionScan.marked (s : SubstitutionScan) : List Char :=
  (s.read.take (s.read.length - s.mark.getD 0)).reverse

/-- Whether the current line of a here-document is its delimiter. -/
def SubstitutionScan.atDelimiter (s : SubstitutionScan) : Bool :=
  let line := if s.stripsTabs then s.marked.dropWhile (· = '\t') else s.marked
  s.delimiter = some line

/-- The here-document is over. -/
def SubstitutionScan.leaveDocument (s : SubstitutionScan) : SubstitutionScan :=
  { s with stripsTabs := false, inDocument := false, delimiter := none, mark := none }

/-- At a line end the lines of a here-document begin, go on or end. -/
def SubstitutionScan.atLineEnd (s : SubstitutionScan) : SubstitutionScan :=
  let nextLine := some (s.read.length + 1)
  if s.wantsDelimiter && s.delimiter.any (!·.isEmpty) then
    { s with wantsDelimiter := false, inDocument := true, mark := nextLine }
  else if s.inDocument then
    if s.atDelimiter then s.leaveDocument else { s with mark := nextLine }
  else s

/-- A word goes on, starts or ends with the next character. -/
def SubstitutionScan.trackWord (s : SubstitutionScan) (c : Char) : SubstitutionScan :=
  { s with word :=
      if isBreak c then none
      else match s.word with
        | some before => some (before + 1)
        | none => some 0 }

/-- Marks the start of the delimiter of a here-document, and takes it when it ends. -/
def SubstitutionScan.trackDelimiter (s : SubstitutionScan) (c : Char) : SubstitutionScan :=
  if !s.wantsDelimiter then s
  else match s.mark with
    | none => if isBreak c then s else { s with mark := some s.read.length }
    | some _ =>
      if !isBreak c then s
      else
        let unquoted := s.marked.filter fun d => d ≠ '\'' && d ≠ '"' && d ≠ '\\'
        let s := { s with delimiter := some (s.delimiter.getD unquoted) }
        if c = '\n' then
          { s with inDocument := true, wantsDelimiter := false, mark := some (s.read.length + 1) }
        else { s with mark := none }

/-- Whether a number sign would start a comment. -/
def SubstitutionScan.commentAllowed (s : SubstitutionScan) : Bool :=
  (s.reservedAllowed && s.reservedLength = 0) || s.word = some 0

/-- Decides at a character that is no lower case letter whether a reserved word was read and may
still come. -/
def SubstitutionScan.trackReserved (s : SubstitutionScan) (c : Char) : SubstitutionScan :=
  if !s.reservedAllowed then s
  else if s.reservedLength = 4 && isBreak c then
    let word := (s.read.take 4).reverse
    { s with
      reservedAllowed := false
      inCase :=
        if word = ['c', 'a', 's', 'e'] then true
        else if word = ['e', 's', 'a', 'c'] then false
        else s.inCase }
  else if c = '#' && (s.reservedLength = 0 || s.word = some 0) then s
  else if !s.inCase && (isSpace c || c = '\n') && s.reservedLength = 2
      && s.read.take 2 = ['o', 'd'] then
    { s with reservedLength := 0 }
  else if s.inCase && c ≠ '\n' then { s with reservedAllowed := false }
  else if !isBreak c then { s with reservedAllowed := false }
  else s

/-- The nesting depth after one more character. -/
def SubstitutionScan.depthAfter (s : SubstitutionScan) (c : Char) : Nat :=
  if s.inCase then s.depth
  else if c = ')' then s.depth - 1
  else if c = '(' then s.depth + 1
  else s.depth

mutual

/-- Reads to the closer of an enclosure. -/
def enclosedFrom (e : Enclosure) : Nat → EnclosureScan → Cursor →
    Except ParseError (List Char × Cursor)
  | 0, _, _ => throw .unreadable
  | fuel + 1, s, place => do
    let (c?, place) := place.next (e.joins && !s.escaped)
    let some c := c? | throw (.unclosed e.closer (place.pos - 1))
    if s.escaped then
      enclosedFrom e fuel { s with escaped := false, read := c :: s.read } place
    else
      let depth := e.depthAfter s c
      let s := { s with depth := depth, read := c :: s.read }
      if depth = 0 then return (s.read.reverse, place)
      else if e.opener = '\'' then
        enclosedFrom e fuel { s with escaped := e.escapes && c = '\\' } place
      else
        let after := { s with escaped := c = '\\', dollar := c = '$' }
        if e.opener ≠ e.closer then
          if isQuote c then
            let (inner, place) ←
              enclosedFrom (.quote c (s.dollar && c = '\'')) fuel {} place
            enclosedFrom e fuel { after with read := inner.reverse ++ s.read } place
          else enclosedFrom e fuel after place
        else if e.opener = '"' && c = grave then
          let (inner, place) ← enclosedFrom (.quote grave false) fuel {} place
          enclosedFrom e fuel { after with read := inner.reverse ++ s.read } place
        else if e.opener ≠ grave && s.dollar && (c = '(' || c = '\x7b' || c = '[') then
          let (inner, place) ← dollarGroupFrom c fuel place
          enclosedFrom e fuel { after with read := inner.reverse ++ s.read } place
        else enclosedFrom e fuel after place

/-- Reads what a dollar and an opening bracket start, from after the bracket. -/
def dollarGroupFrom (opener : Char) : Nat → Cursor → Except ParseError (List Char × Cursor)
  | 0, _ => throw .unreadable
  | fuel + 1, place =>
    if opener = '(' then substitutionFrom fuel place
    else if opener = '\x7b' then enclosedFrom .braces fuel {} place
    else enclosedFrom .brackets fuel {} place

/-- Reads to the parenthesis that closes a command substitution. -/
def substitutionFrom : Nat → Cursor → Except ParseError (List Char × Cursor)
  | 0, _ => throw .unreadable
  | fuel + 1, place =>
    match (place.next false).1 with
    | some '(' => enclosedFrom .parentheses fuel {} place
    | _ => commandsFrom fuel {} place

/-- Reads the commands of a substitution to its closing parenthesis. -/
def commandsFrom : Nat → SubstitutionScan → Cursor → Except ParseError (List Char × Cursor)
  | 0, _, _ => throw .unreadable
  | fuel + 1, s, place => do
    let (c?, place) := place.next (!s.comment && !s.escaped)
    let some c := c? | throw (.unclosed ')' (place.pos - 1))
    let s := if c = '\n' then s.atLineEnd else s
    let s := if s.inDocument && c = ')' && s.depth = 1 && s.atDelimiter then s.leaveDocument else s
    if s.comment || s.inDocument then
      commandsFrom fuel { s.push c with comment := s.comment && c ≠ '\n' } place
    else if s.escaped then
      commandsFrom fuel { s.push c with escaped := false } place
    else
      let s := s.trackWord c
      if isSpace c && !s.wantsDelimiter && s.reservedLength = 0 then
        commandsFrom fuel (s.push c) place
      else
        let s := s.trackDelimiter c
        if !s.reservedAllowed && (c = '\n' || c = '&' || c = '|' || c = ';') then
          let s := { s.push c with reservedAllowed := true, reservedLength := 0 }
          let (following, after) := place.next true
          if following = some c && c ≠ '\n' then
            commandsFrom fuel (s.push c) after
          else commandsFrom fuel s (after.back following)
        else if s.reservedAllowed && Text.isLowercase c then
          commandsFrom fuel { s.push c with reservedLength := s.reservedLength + 1 } place
        else
          let s := s.trackReserved c
          if c = '<' then
            let s := s.push c
            let (following, after) := place.next true
            if following = none then throw (.unclosed ')' (after.pos - 1))
            if following = some '<' then
              let s := s.push '<'
              let (third, beyond) := after.next true
              let some third := third | throw (.unclosed ')' (beyond.pos - 1))
              let (s, place) :=
                if third = '-' then ({ s.push '-' with stripsTabs := true }, beyond)
                else (s, beyond.back (some third))
              if third = '<' then commandsFrom fuel s place
              else commandsFrom fuel { s with wantsDelimiter := true, mark := none } place
            else commandsFrom fuel s (after.back following)
          else
            let s := if c = '#' && s.commentAllowed then { s with comment := true } else s
            let depth := s.depthAfter c
            let before := s
            let s := { s.push c with depth := depth }
            if depth = 0 then return (s.read.reverse, place)
            let s := { s with escaped := c = '\\', dollar := c = '$' }
            if isQuote c then
              let (inner, place) ←
                enclosedFrom (.quote c (before.dollar && c = '\'')) fuel {} place
              commandsFrom fuel { s with read := inner.reverse ++ s.read } place
            else if before.dollar && (c = '(' || c = '\x7b' || c = '[') then
              let depth := if c = '(' && !s.inCase then depth - 1 else depth
              let (inner, place) ← dollarGroupFrom c fuel place
              commandsFrom fuel { s with depth := depth, read := inner.reverse ++ s.read } place
            else commandsFrom fuel s place

end

/-- Enough steps to read the rest of the text: every step but the outermost takes a character. -/
def Cursor.fuel (place : Cursor) : Nat :=
  3 * place.rest.length + 8

/-- The text to the closer of an enclosure, from after its opener, and the place after it. -/
def enclosed (e : Enclosure) (place : Cursor) : Except ParseError (List Char × Cursor) :=
  enclosedFrom e place.fuel {} place

/-- The text to the end of what a dollar and an opening bracket start, from after the bracket. -/
def dollarGroup (opener : Char) (place : Cursor) : Except ParseError (List Char × Cursor) :=
  dollarGroupFrom opener place.fuel place

end ShellVet.Shell
