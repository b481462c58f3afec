import ShellVet.Regex.Basic

/-!
# Reading patterns

`Regex.read` reads the text of a pattern. Letters in parentheses at the start of the text, `(?i)`
and its like, hold for the whole pattern; the other groups, sets, escapes and repetitions follow the
common syntax. A backslash and the character after it are read as one token.

Two things come from the `Host` that reads: the names of characters, for `\N` and a name in braces,
and the number of calls that groups inside each other may take before the reading breaks off. Every
group inside another takes the same number; what the innermost one takes beside is not told apart.
-/

namespace ShellVet.Regex

/-- A character of pattern text, or a character behind a backslash. -/
inductive Token where
  | plain (c : Char)
  | escaped (c : Char)
  deriving DecidableEq, Repr

/-- Why a pattern text is not read. -/
inductive Fault where
  /-- The text breaks the syntax. -/
  | invalid
  /-- A repetition of more turns than are counted. -/
  | tooManyTurns
  /-- A bound of a repetition with more digits than are read. -/
  | tooManyDigits (count : Nat)
  /-- Groups inside each other, more than the calls of the host suffice for. -/
  | tooDeep
  /-- Letters that exclude each other. -/
  | conflictingFlags
  deriving DecidableEq, Repr

/-- What the letters of a pattern switch on. -/
structure Flags where
  ignoreCase : Bool := false
  multiline : Bool := false
  dotAll : Bool := false
  verbose : Bool := false
  ascii : Bool := false
  unicode : Bool := false
  /-- Repetitions are excluded. -/
  template : Bool := false
  locale : Bool := false
  deriving DecidableEq, Repr

namespace Flags

/-- The flag of a letter. -/
def ofLetter? : Char → Option Flags
  | 'i' => some { ignoreCase := true }
  | 'm' => some { multiline := true }
  | 's' => some { dotAll := true }
  | 'x' => some { verbose := true }
  | 'a' => some { ascii := true }
  | 'u' => some { unicode := true }
  | 't' => some { template := true }
  | 'L' => some { locale := true }
  | _ => none

/-- Combines two sets of flags, flag by flag. -/
def zip (f : Bool → Bool → Bool) (a b : Flags) : Flags :=
  ⟨f a.ignoreCase b.ignoreCase, f a.multiline b.multiline, f a.dotAll b.dotAll,
    f a.verbose b.verbose, f a.ascii b.ascii, f a.unicode b.unicode, f a.template b.template,
    f a.locale b.locale⟩

/-- Flags of either set. -/
def union : Flags → Flags → Flags := zip (· || ·)

/-- Whether two sets share a flag. -/
def meets (a b : Flags) : Bool :=
  let both := zip (· && ·) a b
  both ≠ {}

/-- Whether the flag says which characters the classes hold. -/
def isKind (flags : Flags) : Bool := flags.ascii || flags.unicode || flags.locale

/-- The flags inside a group that switches some on and some off. -/
def within (flags on off : Flags) : Flags :=
  let base := if on.isKind then { flags with ascii := false, unicode := false } else flags
  zip (fun a b => a && !b) (union base on) off

/-- How far the flags look through letter case. -/
def folding (flags : Flags) : Folding :=
  if !flags.ignoreCase then .exact else if flags.ascii then .ascii else .full

end Flags

/-- What a repetition sign may follow. -/
inductive ItemKind where
  | anchor
  | repetition
  | other
  deriving DecidableEq, Repr

/-- A piece of a sequence. -/
structure Item where
  kind : ItemKind
  regex : Regex
  deriving Repr

/-- What reading keeps track of. -/
structure Progress where
  rest : List Token
  flags : Flags
  names : List (String × Nat) := []
  /-- Width of each group, none while it is open. Group zero is the whole pattern. -/
  widths : List (Option (Nat × Option Nat)) := [none]
  /-- Number of groups before the lookbehind being read. -/
  behindFrom : Option Nat := none
  /-- Groups that conditions ask for. -/
  wanted : List Nat := []
  /-- Whether a lookbehind without a fixed width, or with one too great, was read. -/
  looseBehind : Bool := false

/-- What reading takes from where it runs. -/
structure Host where
  /-- The character of a name. -/
  named : String → Option Char
  /-- Calls inside each other that are left for groups. -/
  calls : Nat

/-- A step of reading. -/
abbrev Reader := ReaderT Host (StateT Progress (Except Fault))

/-- The syntax is broken. -/
def invalid {α : Type} : Reader α := throw .invalid

/-- Splits pattern text into tokens; none if it ends in a lone backslash. -/
def tokens? : List Char → Option (List Token)
  | [] => some []
  | ['\\'] => none
  | '\\' :: c :: rest => (tokens? rest).map (.escaped c :: ·)
  | c :: rest => (tokens? rest).map (.plain c :: ·)

/-- The next token, which stays. -/
def peek : Reader (Option Token) := do
  return (← get).rest.head?

/-- Drops the next token. -/
def skip : Reader Unit :=
  modify fun progress => { progress with rest := progress.rest.drop 1 }

/-- Takes the next token. -/
def take : Reader Token := do
  match (← get).rest with
  | [] => invalid
  | token :: _ => skip; return token

/-- Takes the next token if it is the character. -/
def accept (c : Char) : Reader Bool := do
  if (← peek) = some (.plain c) then skip; return true
  else return false

/-- Takes the character, which has to be next. -/
def expect (c : Char) : Reader Unit := do
  unless ← accept c do invalid

/-- Takes at most so many plain characters of a kind. -/
def takeChars (kind : Char → Bool) : Nat → Reader (List Char)
  | 0 => return []
  | count + 1 => do
    match ← peek with
    | some (.plain c) =>
      if kind c then skip; return c :: (← takeChars kind count)
      else return []
    | _ => return []

/-- Takes all plain characters of a kind. -/
def takeAll (kind : Char → Bool) : Reader (List Char) := do
  takeChars kind (← get).rest.length

/-- Reads what stands inside a group, which takes so many calls. -/
def nested {α : Type} (calls : Nat) (inner : Reader α) : Reader α := do
  if (← readThe Host).calls < calls then throw .tooDeep
  withTheReader Host (fun host => { host with calls := host.calls - calls }) inner

/-- Takes a name and the character that ends it. -/
def takeName (closer : Char) : Reader String := do
  let name ← takeAll (· ≠ closer)
  if name.isEmpty then invalid
  expect closer
  return String.ofList name

/-- The digit of a number in a base up to sixteen. -/
def isDigitOf (base : Nat) (c : Char) : Bool :=
  let digit :=
    if c.isDigit then c.toNat - 48
    else if 'a' ≤ c && c ≤ 'f' then c.toNat - 87
    else if 'A' ≤ c && c ≤ 'F' then c.toNat - 55
    else 16
  digit < base

/-- The number that digits spell. -/
def numberOf (base : Nat) (digits : List Char) : Nat :=
  digits.foldl (fun n c =>
    n * base + (if c.isDigit then c.toNat - 48 else c.toLower.toNat - 87)) 0

/-- A code point by its number, written with a fixed count of hexadecimal digits. -/
def hexEscape (count : Nat) : Reader Nat := do
  let digits ← takeChars (isDigitOf 16) count
  let code := numberOf 16 digits
  if digits.length ≠ count || 0x110000 ≤ code then invalid else return code

/-- A code point by the name of its character, from after the letter. -/
def namedEscape : Reader Nat := do
  expect '\x7b'
  match (← readThe Host).named (← takeName '\x7d') with
  | some c => return c.toNat
  | none => invalid

/-- The control character of a letter. -/
def control? : Char → Option Char
  | 'a' => some '\x07'
  | 'b' => some '\x08'
  | 'f' => some '\x0c'
  | 'n' => some '\n'
  | 'r' => some '\r'
  | 't' => some '\t'
  | 'v' => some '\x0b'
  | '\\' => some '\\'
  | _ => none

/-- The class of a letter. -/
def class? (flags : Flags) : Char → Option CharItem
  | 'd' => some (.class .digit flags.ascii false)
  | 'D' => some (.class .digit flags.ascii true)
  | 's' => some (.class .blank flags.ascii false)
  | 'S' => some (.class .blank flags.ascii true)
  | 'w' => some (.class .word flags.ascii false)
  | 'W' => some (.class .word flags.ascii true)
  | _ => none

/-- The anchor of a letter. -/
def anchor? (flags : Flags) : Char → Option Anchor
  | 'A' => some .textStart
  | 'Z' => some .textEnd
  | 'b' => some (.wordEdge flags.ascii false)
  | 'B' => some (.wordEdge flags.ascii true)
  | _ => none

/-- The code point of an escape that is neither class nor anchor nor octal number. -/
def codeEscape (c : Char) : Reader Nat := do
  match c with
  | 'x' => hexEscape 2
  | 'u' => hexEscape 4
  | 'U' => hexEscape 8
  | 'N' => namedEscape
  | _ =>
    match control? c with
    | some found => return found.toNat
    | none => if c.isAlphanum then invalid else return c.toNat

/-- An octal number of up to three digits. -/
def octalEscape (digits : List Char) : Reader Nat := do
  let code := numberOf 8 digits
  if code > 255 then invalid else return code

/-- What an escape or a character of the pattern text stands for. -/
inductive Entry where
  /-- A code point, which may be half of a surrogate pair and then is no character. -/
  | code (n : Nat)
  | class (item : CharItem)
  deriving DecidableEq, Repr

/-- The characters among the code points from one to another. -/
def charsBetween (first last : Nat) : CharItem :=
  let first := if 0xD800 ≤ first && first < 0xE000 then 0xE000 else first
  let last := if 0xD800 ≤ last && last < 0xE000 then 0xD7FF else last
  .range (Char.ofNat first) (Char.ofNat last)

/-- The entry of a set. -/
def Entry.item : Entry → CharItem
  | .code n => if Nat.isValidChar n then .char (Char.ofNat n) else charsBetween n n
  | .class item => item

/-- An escape inside a set. -/
def setEscape (flags : Flags) (c : Char) : Reader Entry := do
  match class? flags c with
  | some found => return .class found
  | none =>
    if isDigitOf 8 c then
      return .code (← octalEscape (c :: (← takeChars (isDigitOf 8) 2)))
    else return .code (← codeEscape c)

/-- One character. -/
def single (flags : Flags) (entry : Entry) : Regex :=
  .one { items := [entry.item], folding := flags.folding }

/-- A piece that a sign may repeat. -/
def Item.of (regex : Regex) : Item := ⟨.other, regex⟩

/-- Whether the group is read to its end. -/
def isClosed (progress : Progress) (index : Nat) : Bool :=
  (progress.widths[index]?.join).isSome

/-- The text of a group again. The group has to be closed, and outside of the lookbehind being
read. -/
def groupAgain (flags : Flags) (index : Nat) : Reader Item := do
  let progress ← get
  if !isClosed progress index || progress.behindFrom.any (· ≤ index) then invalid
  else return .of (.again flags.folding index)

/-- An escape outside of sets. -/
def escape (flags : Flags) (c : Char) : Reader Item := do
  match anchor? flags c with
  | some kind => return ⟨.anchor, .anchor kind⟩
  | none =>
    match class? flags c with
    | some found => return .of (single flags (.class found))
    | none =>
      if c == '0' then
        let digits ← takeChars (isDigitOf 8) 2
        return .of (single flags (.code (← octalEscape digits)))
      else if c.isDigit then
        let second ← takeChars Char.isDigit 1
        let third ←
          if isDigitOf 8 c && second.any (isDigitOf 8) then takeChars (isDigitOf 8) 1 else pure []
        if third.isEmpty then groupAgain flags (numberOf 10 (c :: second))
        else return .of (single flags (.code (← octalEscape (c :: second ++ third))))
      else return .of (single flags (.code (← codeEscape c)))

/-- One end of a range, or an entry of a set, from its token. -/
def setEntry (flags : Flags) : Token → Reader Entry
  | .plain c => return .code c.toNat
  | .escaped c => setEscape flags c

/-- The entries of a set up to its bracket, which the first entry may be. -/
def setItems (flags : Flags) : Nat → List CharItem → Reader (List CharItem)
  | 0, _ => invalid
  | fuel + 1, done => do
    let token ← take
    if token = .plain ']' && !done.isEmpty then return done.reverse
    let first ← setEntry flags token
    if ← accept '-' then
      let token ← take
      if token = .plain ']' then return (.char '-' :: first.item :: done).reverse
      match first, ← setEntry flags token with
      | .code low, .code high =>
        if high < low then invalid else setItems flags fuel (charsBetween low high :: done)
      | _, _ => invalid
    else setItems flags fuel (first.item :: done)

/-- A set, from after its bracket. -/
def bracket (flags : Flags) : Reader Item := do
  let negated ← accept '^'
  let items ← setItems flags ((← get).rest.length + 1) []
  return .of (.one { items, folding := flags.folding, negated })

/-- Turns that are not counted any more. -/
def turnLimit : Nat := 4294967295

/-- Digits of a number that are not read any more. -/
def digitLimit : Nat := 4300

/-- A bound of a repetition. -/
def bound? (digits : List Char) : Reader (Option Nat) := do
  if digits.isEmpty then return none
  if digitLimit < digits.length then throw (.tooManyDigits digits.length)
  let count := numberOf 10 digits
  if turnLimit ≤ count then throw .tooManyTurns else return some count

/-- The bounds in braces, from after the brace; none if the brace stands for itself. -/
def bounds : Reader (Option (Nat × Option Nat)) := do
  let saved := (← get).rest
  if (← peek) = some (.plain '\x7d') then return none
  let low ← takeAll Char.isDigit
  let high ← if ← accept ',' then takeAll Char.isDigit else pure low
  if ← accept '\x7d' then
    let least := (← bound? low).getD 0
    let most ← bound? high
    if most.any (· < least) then invalid
    return some (least, most)
  else
    modify fun progress => { progress with rest := saved }
    return none

/-- Repeats the last piece of a reversed sequence. -/
def repeatLast (least : Nat) (most : Option Nat) : List Item → Reader (List Item)
  | [] => invalid
  | last :: done => do
    if last.kind ≠ .other || (← get).flags.template then invalid
    let body := last.regex
    if ← accept '?' then return ⟨.repetition, .loop true least most body⟩ :: done
    else if ← accept '+' then return ⟨.repetition, possessive least most body⟩ :: done
    else return ⟨.repetition, .loop false least most body⟩ :: done

/-- Letters that switch flags on or off, from the first one on, up to a character that is none. -/
def flagLetters : Nat → Flags → Char → Reader (Flags × Char)
  | 0, _, _ => invalid
  | fuel + 1, flags, c => do
    match Flags.ofLetter? c with
    | none => return (flags, c)
    | some flag =>
      let all := flags.union flag
      if flag.locale || (flag.isKind && all.ascii && all.unicode) then invalid
      match ← take with
      | .plain next => flagLetters fuel all next
      | .escaped _ => invalid

/-- What a group with letters does. -/
inductive FlagGroup where
  /-- Switches flags on for the whole pattern. -/
  | everywhere (on : Flags)
  /-- Switches flags on and off for its body. -/
  | inside (on off : Flags)

/-- The letters of a group, from the first character on. -/
def flagGroup (c : Char) : Reader FlagGroup := do
  if c ≠ '-' && (Flags.ofLetter? c).isNone then invalid
  let fuel := (← get).rest.length + 1
  let (on, c) ← if c == '-' then pure ({}, c) else flagLetters fuel {} c
  if c == ')' then return .everywhere on
  if on.template then invalid
  if c == ':' then return .inside on {}
  if c ≠ '-' then invalid
  match ← take with
  | .escaped _ => invalid
  | .plain first =>
    if (Flags.ofLetter? first).isNone then invalid
    let (off, c) ← flagLetters fuel {} first
    if c ≠ ':' || off.isKind || off.template || on.meets off then invalid
    return .inside on off

/-- Opens a group and gives its number. -/
def openGroup (name : Option String) : Reader Nat := do
  let progress ← get
  let index := progress.widths.length
  match name with
  | none => set { progress with widths := progress.widths ++ [none] }
  | some name =>
    if (progress.names.lookup name).isSome then invalid
    set { progress with
      widths := progress.widths ++ [none], names := (name, index) :: progress.names }
  return index

/-- The width of a pattern, given the groups read so far. -/
def widthOf (progress : Progress) (regex : Regex) : Nat × Option Nat :=
  regex.width fun index => (progress.widths[index]?.join).getD (0, some 0)

/-- Closes a group. -/
def closeGroup (index : Nat) (body : Regex) : Reader Unit :=
  modify fun progress =>
    { progress with widths := progress.widths.set index (some (widthOf progress body)) }

/-- Groups that are not counted any more. -/
def groupLimit : Nat := 1073741823

/-- Whether the character may stand around a number. -/
def isNumberSpace (c : Char) : Bool :=
  if c.toNat < 128 then c == ' ' || ('\t' ≤ c && c ≤ '\r') else Text.isBlank c

/-- The digits of a number, which may be of any script, with single low lines between them. -/
def groupDigits? : List Char → Option (List Nat)
  | [] => none
  | [c] => if Text.isDecimal c then some [Text.decimalValue c] else none
  | c :: '_' :: rest =>
    if Text.isDecimal c then (groupDigits? rest).map (Text.decimalValue c :: ·) else none
  | c :: rest =>
    if Text.isDecimal c then (groupDigits? rest).map (Text.decimalValue c :: ·) else none

/-- The number of a group that a text spells, with a plus sign or none and spaces around it. -/
def groupNumber? (text : List Char) : Option Nat := do
  let text := text.dropWhile isNumberSpace
  let text := (text.reverse.dropWhile isNumberSpace).reverse
  let digits ← groupDigits? (if text.head? = some '+' then text.drop 1 else text)
  let number := digits.foldl (fun n digit => n * 10 + digit) 0
  if digitLimit < digits.length || number = 0 || groupLimit ≤ number then none else some number

/-- The number of a group that a condition names. -/
def conditionGroup (name : String) : Reader Nat := do
  let index ←
    if Text.isIdentifier name.toList then
      match (← get).names.lookup name with
      | some index => pure index
      | none => invalid
    else match groupNumber? name.toList with
      | some index =>
        modify fun progress => { progress with wanted := index :: progress.wanted }
        pure index
      | none => invalid
  let progress ← get
  if progress.behindFrom.any fun base => !isClosed progress index || base ≤ index then invalid
  return index

/-- A comment, from after its sign. -/
def comment : Reader Unit := do
  let _ ← takeUntilClose (← get).rest.length
where
  /-- Takes tokens up to a closing parenthesis. -/
  takeUntilClose : Nat → Reader Unit
    | 0 => invalid
    | fuel + 1 => do
      if (← take) = .plain ')' then return () else takeUntilClose fuel

/-- Drops the rest of a line. -/
def skipLine : Nat → Reader Unit
  | 0 => return ()
  | fuel + 1 => do
    match ← peek with
    | none => return ()
    | some token =>
      skip
      if token = .plain '\n' then return () else skipLine fuel

/-- The white space that verbose patterns may hold. -/
def isFiller (c : Char) : Bool := c == ' ' || ('\t' ≤ c && c ≤ '\r')

mutual

/-- Alternatives, up to the end or a closing parenthesis. `top` for the whole pattern. -/
def alternatives : Nat → Bool → Flags → Reader Regex
  | 0, _, _ => invalid
  | fuel + 1, top, flags => do
    let first ← sequence fuel top flags []
    further fuel top flags [first]

/-- Further alternatives after the ones read, which are reversed. -/
def further : Nat → Bool → Flags → List Regex → Reader Regex
  | 0, _, _, _ => invalid
  | fuel + 1, top, flags, done => do
    if ← accept '|' then
      let whole := (← get).flags
      let flags := if top then whole else flags
      let next ← sequence fuel false flags []
      further fuel top flags (next :: done)
    else return choice done.reverse

/-- A sequence after the pieces read, which are reversed. `first` at the start of the pattern. -/
def sequence : Nat → Bool → Flags → List Item → Reader Regex
  | 0, _, _, _ => invalid
  | fuel + 1, first, flags, done => do
    match ← peek with
    | none | some (.plain '|') | some (.plain ')') => return row (done.reverse.map (·.regex))
    | some (.escaped c) =>
      skip
      let item ← escape flags c
      sequence fuel first flags (item :: done)
    | some (.plain c) =>
      skip
      if flags.verbose && isFiller c then sequence fuel first flags done
      else if flags.verbose && c == '#' then
        skipLine (← get).rest.length
        sequence fuel first flags done
      else match c with
        | '[' =>
          let item ← bracket flags
          sequence fuel first flags (item :: done)
        | '.' =>
          let item : CharSet :=
            if flags.dotAll then ⟨[], .exact, true⟩ else ⟨[.char '\n'], .exact, true⟩
          sequence fuel first flags (.of (.one item) :: done)
        | '^' =>
          let kind := if flags.multiline then .lineStart else .textStart
          sequence fuel first flags (⟨.anchor, .anchor kind⟩ :: done)
        | '$' =>
          let kind := if flags.multiline then .lineEnd else .lastLineEnd
          sequence fuel first flags (⟨.anchor, .anchor kind⟩ :: done)
        | '?' =>
          let done ← repeatLast 0 (some 1) done
          sequence fuel first flags done
        | '*' =>
          let done ← repeatLast 0 none done
          sequence fuel first flags done
        | '+' =>
          let done ← repeatLast 1 none done
          sequence fuel first flags done
        | '\x7b' =>
          match ← bounds with
          | some (least, most) =>
            let done ← repeatLast least most done
            sequence fuel first flags done
          | none => sequence fuel first flags (.of (single flags (.code c.toNat)) :: done)
        | '(' =>
          let (on, item) ← parenthesis fuel (first && done.isEmpty) flags
          sequence fuel first (flags.union on) (item.toList ++ done)
        | _ => sequence fuel first flags (.of (single flags (.code c.toNat)) :: done)

/-- A group, from after its parenthesis: flags it switches on for the whole pattern, and its piece
if it is one. -/
def parenthesis : Nat → Bool → Flags → Reader (Flags × Option Item)
  | 0, _, _ => invalid
  | fuel + 1, first, flags => do
    if ← accept '?' then
      match ← take with
      | .plain 'P' =>
        match ← take with
        | .plain '<' =>
          let name ← takeName '>'
          if Text.isIdentifier name.toList then remembered fuel flags (some name) else invalid
        | .plain '=' =>
          let name ← takeName ')'
          match (← get).names.lookup name with
          | some index => return ({}, some (← groupAgain flags index))
          | none => invalid
        | _ => invalid
      | .plain ':' => return ({}, some (.of (← body fuel flags)))
      | .plain '>' => return ({}, some (.of (.atomic (← body fuel flags))))
      | .plain '#' =>
        comment
        return ({}, none)
      | .plain '=' => return ({}, some (.of (.ahead true (← body fuel flags))))
      | .plain '!' => return ({}, some (.of (.ahead false (← body fuel flags))))
      | .plain '<' =>
        match ← take with
        | .plain '=' => return ({}, some (← lookbehind fuel flags true))
        | .plain '!' => return ({}, some (← lookbehind fuel flags false))
        | _ => invalid
      | .plain '(' =>
        let index ← conditionGroup (← takeName ')')
        let yes ← nested 1 (sequence fuel false flags [])
        let no ← if ← accept '|' then nested 1 (sequence fuel false flags []) else pure .empty
        expect ')'
        return ({}, some (.of (.given index yes no)))
      | .plain c =>
        match ← flagGroup c with
        | .everywhere on =>
          if !first then invalid
          modify fun progress => { progress with flags := progress.flags.union on }
          return (on, none)
        | .inside on off => return ({}, some (.of (← body fuel (flags.within on off))))
      | .escaped _ => invalid
    else remembered fuel flags none

/-- The body of a group and its closing parenthesis. -/
def body : Nat → Flags → Reader Regex
  | 0, _ => invalid
  | fuel + 1, flags => do
    let regex ← nested 2 (alternatives fuel false flags)
    expect ')'
    return regex

/-- A group that remembers its text. -/
def remembered : Nat → Flags → Option String → Reader (Flags × Option Item)
  | 0, _, _ => invalid
  | fuel + 1, flags, name => do
    let index ← openGroup name
    let regex ← body fuel flags
    closeGroup index regex
    return ({}, some (.of (.group index regex)))

/-- A lookbehind. -/
def lookbehind : Nat → Flags → Bool → Reader Item
  | 0, _, _ => invalid
  | fuel + 1, flags, positive => do
    let saved := (← get).behindFrom
    modify fun progress =>
      { progress with behindFrom := saved.or (some progress.widths.length) }
    let regex ← body fuel flags
    modify fun progress => { progress with behindFrom := saved }
    let (least, most) := widthOf (← get) regex
    if most ≠ some least || turnLimit < least then
      modify fun progress => { progress with looseBehind := true }
    return .of (.behind positive least regex)

end

/-- A whole pattern. -/
def pattern : Reader Regex := do
  let progress ← get
  let regex ← alternatives (8 * progress.rest.length + 8) true progress.flags
  let progress ← get
  if progress.flags.ascii && progress.flags.unicode then throw .conflictingFlags
  if !progress.rest.isEmpty || progress.looseBehind ||
      progress.wanted.any (progress.widths.length ≤ ·) then invalid
  return regex

/-- Reads the text of a pattern under some flags. -/
def readWith (host : Host) (flags : Flags) (text : List Char) : Except Fault Regex :=
  match tokens? text with
  | none => .error .invalid
  | some rest => (pattern.run host |>.run { rest, flags }).map (·.1)

/-- Reads the text of a pattern. -/
def read (host : Host) (text : List Char) : Except Fault Regex :=
  readWith host {} text

end ShellVet.Regex
