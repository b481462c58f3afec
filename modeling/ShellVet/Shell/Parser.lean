import ShellVet.Shell.Expansion
import ShellVet.Shell.Lexer
import ShellVet.Shell.Describe

/-!
# The grammar of command lines

A statement is read with one token of lookahead. A token that the grammar does not allow is an error
at that token; what was completed before it, the words included, was already expanded, so an error
inside an earlier word comes first. Words are expanded when the token after them allows the
construct they complete.

`statement?` reads one statement, and `readTrees` all statements of a text: a statement ends at a
line end, and the next one starts one character after it or after its here-documents.
-/

namespace ShellVet.Shell

/-- What does not change while one statement is read. -/
structure Setting where
  /-- Reads the statements inside substitutions. -/
  inner : StatementReader
  /-- Where the text stands in the whole text. -/
  offset : Nat
  /-- Characters of the text. -/
  length : Nat
  /-- A closing parenthesis ends the statement. -/
  closing : Bool

/-- What the parser knows while it reads a statement. -/
structure ParserState where
  lexer : Lexer
  token : Token
  documents : List (Nat × Nat) := []

/-- A step of the parser. -/
abbrev Parser := ReaderT Setting (StateT ParserState (Except ParseError))

namespace Parser

/-- The token to decide on. -/
def current : Parser Token := return (← get).token

/-- Moves on to the next token. -/
def advance : Parser Unit := do
  let state ← get
  let (token, lexer) ← state.lexer.read (← read).offset
  set { state with lexer := lexer, token := token }

/-- The current token is not allowed here. -/
def unexpected {α : Type} : Parser α := do
  let token ← current
  match token.kind with
  | .endOfText => throw (.unexpectedEnd (← read).length)
  | _ => throw (.unexpected token.lexeme token.start)

/-- Where a token stands in the whole text. -/
def spanOf (token : Token) : Parser Span := do
  let offset := (← read).offset
  return ⟨offset + token.start, offset + token.stop⟩

/-- Takes the current token as a reserved word or bracket of the tree. -/
def takeReserved : Parser Tree := do
  let token ← current
  advance
  return .reserved (← spanOf token) (String.ofList token.text)

/-- Takes the current token as a sign between statements. -/
def takeOperator : Parser Tree := do
  let token ← current
  advance
  return .operator (← spanOf token) (String.ofList token.text)

/-- Takes a reserved word that has to come next. -/
def expectReserved (name : Reserved) : Parser Tree := do
  if (← current).isReserved name then takeReserved else unexpected

/-- Takes a parenthesis that has to come next. -/
def expectOperator (sign : Operator) : Parser Tree := do
  if (← current).isOperator sign then takeReserved else unexpected

/-- Skips line ends. The first argument bounds their number. -/
def skipLineEnds : Nat → Parser Unit
  | 0 => return
  | fuel + 1 => do
    if (← current).kind = .lineEnd then
      advance
      skipLineEnds fuel

/-- The expanded text and the expansions of a word token. -/
def expandToken (token : Token) : Parser (String × List Tree) := do
  let setting ← read
  let expanded ← expand setting.inner (setting.offset + token.start) token.text
  modify fun state => { state with documents := state.documents ++ expanded.documents }
  return (String.ofList expanded.text.reverse, expanded.parts.reverse)

/-- The tree of a word token. -/
def expandWord (token : Token) : Parser Tree := do
  let (text, parts) ← expandToken token
  return .word (← spanOf token) text parts

/-- The current token may follow a part of a command. -/
def requireContinuation : Parser Unit := do
  let token ← current
  if !(token.extendsCommand || token.endsCommand) then unexpected

/-! ## Simple commands -/

/-- The target of a redirection, which starts at the current token. -/
def redirectTarget (key : Nat) (sign : Operator) : Parser Tree := do
  let token ← current
  let duplicates := sign = .lessAnd || sign = .greaterAnd
  match token.kind with
  | .word =>
    advance
    requireContinuation
    if sign = .lessLess || sign = .lessLessDash then
      let pending : PendingDocument := ⟨key, token.text, sign = .lessLessDash⟩
      modify fun state =>
        { state with lexer := { state.lexer with pending := state.lexer.pending ++ [pending] } }
      return .word (← spanOf token) (String.ofList token.text) []
    else expandWord token
  | .number _ =>
    if duplicates then
      advance
      requireContinuation
      return .channel token.lexeme
    else unexpected
  | .operator .dash =>
    if duplicates then
      advance
      requireContinuation
      return .channel token.lexeme
    else unexpected
  | _ => unexpected

/-- A redirection. -/
def redirect : Parser Tree := do
  let first ← current
  let source ← match first.kind with
    | .number value =>
      advance
      pure (some value)
    | _ => pure none
  let token ← current
  match token.kind with
  | .operator sign =>
    if sign.redirects && !(source.isSome && (sign = .andGreater || sign = .andGreaterGreater)) then
      let start := (← spanOf first).start
      advance
      let last ← current
      let target ← redirectTarget start sign
      return .redirect ⟨start, (← spanOf last).stop⟩ source sign.text target
    else unexpected
  | _ => unexpected

/-- A word, an assignment or a redirection of a simple command. -/
def element : Parser Tree := do
  let token ← current
  match token.kind with
  | .word =>
    advance
    requireContinuation
    expandWord token
  | .assignment =>
    advance
    requireContinuation
    let (text, parts) ← expandToken token
    return .assignment (← spanOf token) text parts
  | _ => redirect

/-- The parts of a simple command from the current token on. -/
def elements : Nat → Parser (List Tree)
  | 0 => throw .unreadable
  | fuel + 1 => do
    if (← current).extendsCommand then
      let part ← element
      return part :: (← elements fuel)
    else return []

/-- Redirections after a compound command. -/
def redirects : Nat → Parser (List Tree)
  | 0 => throw .unreadable
  | fuel + 1 => do
    if (← current).startsRedirect then
      let part ← redirect
      return part :: (← redirects fuel)
    else if (← current).endsCommand then return []
    else unexpected

/-- Words up to a line end or a semicolon, expanded one after another. -/
def wordList : Nat → Parser (List Tree)
  | 0 => throw .unreadable
  | fuel + 1 => do
    let token ← current
    match token.kind with
    | .word =>
      advance
      let after ← current
      if after.kind = .word || after.kind = .lineEnd || after.isOperator .semicolon then
        let part ← expandWord token
        return part :: (← wordList fuel)
      else unexpected
    | _ => return []

/-- The compound command with redirections after it. -/
def withRedirects (tree : Tree) (parts : List Tree) : Tree :=
  match parts.getLast?, tree with
  | some last, .compound span body own =>
    .compound ⟨span.start, last.span.stop⟩ body (own ++ parts)
  | _, _ => tree

/-- A clause as a compound command. -/
def clause (kind : Clause) (parts : List Tree) : Tree :=
  let span := Span.ofParts parts
  .compound span [.clause kind span parts] []

/-- Brackets around statements as a compound command. -/
def bracketedBody (parts : List Tree) : Tree :=
  .compound (.ofParts parts) parts []

/-- A construct of the grammar that is not analysed. -/
def unsupported {α : Type} (rule head : String) (argument : Option String) : Parser α :=
  throw (.unsupported (.construct rule head argument))

/-- A command that the current token may follow, with redirections between them or not. -/
def requireCompoundEnd : Parser Unit := do
  let token ← current
  if !(token.startsRedirect || token.endsCommand) then unexpected

/-! ## Compound commands -/

mutual

/-- Statements inside a compound command, up to a token that starts no statement. With `closed`
the last one needs a sign or a line end after it. -/
def body (closed : Bool) : Nat → Parser Tree
  | 0 => throw .unreadable
  | fuel + 1 => do
    skipLineEnds fuel
    let first ← pipeline fuel
    Tree.ofStatements <$> bodyRest closed fuel [first]

/-- The statements after those read, which are kept in reverse. -/
def bodyRest (closed : Bool) : Nat → List Tree → Parser (List Tree)
  | 0, _ => throw .unreadable
  | fuel + 1, parts => do
    let token ← current
    if token.isOperator .andIf || token.isOperator .orIf then
      let sign ← takeOperator
      skipLineEnds fuel
      let next ← pipeline fuel
      bodyRest closed fuel (next :: sign :: parts)
    else if token.isOperator .ampersand || token.isOperator .semicolon
        || token.kind = .lineEnd then
      let sign ← takeOperator
      skipLineEnds fuel
      if (← current).startsPipeline then
        let next ← pipeline fuel
        bodyRest closed fuel (next :: sign :: parts)
      else if parts.length > 1 || token.kind ≠ .lineEnd then return (sign :: parts).reverse
      else return parts.reverse
    else if closed then unexpected
    else return parts.reverse

/-- A pipeline with its negations. -/
def pipeline : Nat → Parser Tree
  | 0 => throw .unreadable
  | fuel + 1 => do
    let token ← current
    if token.isReserved .bang then
      let bang ← takeReserved
      let next ← current
      if next.kind = .lineEnd || next.isOperator .semicolon then
        let sign ← takeOperator
        if !(← current).endsCommand then unexpected
        else if next.kind = .lineEnd then throw .unreadable
        else return .pipeline (.ofParts [bang, sign]) [bang, sign]
      else if next.startsPipeline then
        match ← pipeline fuel with
        | .pipeline _ parts => return .pipeline (.ofParts (bang :: parts)) (bang :: parts)
        | tree => return .pipeline (.ofParts [bang, tree]) [bang, tree]
      else unexpected
    else if token.isReserved .timeWord then
      advance
      let option ← current
      if option.isReserved .timeOption then
        advance
        if (← current).isReserved .timeSeparator then advance
      let next ← current
      if next.startsPipeline || next.kind = .lineEnd || next.isOperator .semicolon then
        unsupported "time command" "time"
          (if option.isReserved .timeOption then some "-p" else none)
      else unexpected
    else
      let first ← command fuel
      match ← stages fuel with
      | [] => return first
      | rest => return .pipeline (.ofParts (first :: rest)) (first :: rest)

/-- The signs and stages after the first stage of a pipeline. -/
def stages : Nat → Parser (List Tree)
  | 0 => throw .unreadable
  | fuel + 1 => do
    let token ← current
    if token.isOperator .bar || token.isOperator .barAnd then
      advance
      let sign := Tree.pipe (← spanOf token) (String.ofList token.text)
      skipLineEnds fuel
      let next ← command fuel
      return sign :: next :: (← stages fuel)
    else return []

/-- A command: simple, compound, a function definition or a coprocess. -/
def command : Nat → Parser Tree
  | 0 => throw .unreadable
  | fuel + 1 => do
    let token ← current
    if token.kind = .word then
      advance
      if (← current).isOperator .leftParen then
        let opener ← takeReserved
        let closer ← expectOperator .rightParen
        functionBody fuel token [opener, closer] none
      else
        requireContinuation
        let first ← expandWord token
        let parts := first :: (← elements fuel)
        return .command (.ofParts parts) parts
    else if token.extendsCommand then
      let parts ← elements fuel
      return .command (.ofParts parts) parts
    else if token.isReserved .functionWord then
      let keyword ← takeReserved
      let name ← current
      if name.kind ≠ .word then unexpected
      else
        advance
        if (← current).isOperator .leftParen then
          let opener ← takeReserved
          let closer ← expectOperator .rightParen
          functionBody fuel name [opener, closer] (some keyword)
        else functionBody fuel name [] (some keyword)
    else if token.isReserved .coprocWord then coprocess fuel
    else if token.startsCompound then
      let tree ← compound fuel
      let parts ← redirects fuel
      return withRedirects tree parts
    else unexpected

/-- The body of a function, and the definition as a whole. -/
def functionBody (fuel : Nat) (name : Token) (brackets : List Tree) (keyword : Option Tree) :
    Parser Tree :=
  match fuel with
  | 0 => throw .unreadable
  | fuel + 1 => do
    skipLineEnds fuel
    if (← current).startsCompound then
      let tree ← compound fuel
      let parts ← redirects fuel
      let name ← expandWord name
      let parts := keyword.toList ++ name :: brackets ++ [withRedirects tree parts]
      return .function (.ofParts parts) parts
    else unexpected

/-- A coprocess is read and not analysed. -/
def coprocess : Nat → Parser Tree
  | 0 => throw .unreadable
  | fuel + 1 => do
    advance
    let token ← current
    if token.startsCompound then
      let tree ← compound fuel
      let _ ← redirects fuel
      unsupported "coproc" "coproc" (some tree.shown)
    else if token.kind = .word then
      advance
      if (← current).startsCompound then
        let _ ← compound fuel
        let _ ← redirects fuel
        unsupported "coproc" "coproc" (some (String.ofList token.text))
      else
        requireContinuation
        let first ← expandWord token
        let parts := first :: (← elements fuel)
        unsupported "coproc" "coproc" (some (bracketed (shownAll parts)))
    else if token.extendsCommand then
      let parts ← elements fuel
      unsupported "coproc" "coproc" (some (bracketed (shownAll parts)))
    else unexpected

/-- A compound command without the redirections after it. -/
def compound : Nat → Parser Tree
  | 0 => throw .unreadable
  | fuel + 1 => do
    let token ← current
    match token.kind with
    | .operator .leftParen =>
      let opener ← takeReserved
      let inside ← body false fuel
      let closer ← expectOperator .rightParen
      return bracketedBody [opener, inside, closer]
    | .reserved .leftBrace =>
      let opener ← takeReserved
      let inside ← body false fuel
      let closer ← expectReserved .rightBrace
      return bracketedBody [opener, inside, closer]
    | .reserved .ifWord =>
      let keyword ← takeReserved
      let parts ← conditional fuel
      return clause .ifClause (keyword :: parts)
    | .reserved .whileWord => loop .whileClause fuel
    | .reserved .untilWord => loop .untilClause fuel
    | .reserved .forWord => forLoop fuel
    | .reserved .selectWord => selection fuel
    | .reserved .caseWord => caseCommand fuel
    | _ =>
      advance
      unexpected

/-- A conditional from after its first word or after an `elif`. -/
def conditional : Nat → Parser (List Tree)
  | 0 => throw .unreadable
  | fuel + 1 => do
    let condition ← body false fuel
    let thenWord ← expectReserved .thenWord
    let branch ← body false fuel
    let token ← current
    if token.isReserved .elifWord then
      let elifWord ← takeReserved
      return condition :: thenWord :: branch :: elifWord :: (← conditional fuel)
    else if token.isReserved .elseWord then
      let elseWord ← takeReserved
      let other ← body false fuel
      let fiWord ← expectReserved .fiWord
      return [condition, thenWord, branch, elseWord, other, fiWord]
    else
      let fiWord ← expectReserved .fiWord
      return [condition, thenWord, branch, fiWord]

/-- A loop with a condition, which has to be a list of statements. -/
def loop (kind : Clause) : Nat → Parser Tree
  | 0 => throw .unreadable
  | fuel + 1 => do
    let keyword ← takeReserved
    let condition ← body false fuel
    let doWord ← expectReserved .doWord
    let inside ← body false fuel
    let doneWord ← expectReserved .doneWord
    requireCompoundEnd
    match condition with
    | .statements _ _ => return clause kind [keyword, condition, doWord, inside, doneWord]
    | _ => throw .unreadable

/-- The part between the name of a `for` or `select` and its body: the trees of its words and
signs. With `wordsNeeded` the list after `in` may not be empty. -/
def loopHead (wordsNeeded : Bool) : Nat → Parser (List Tree)
  | 0 => throw .unreadable
  | fuel + 1 => do
    if (← current).isOperator .semicolon then
      let sign ← takeReserved
      skipLineEnds fuel
      return [sign]
    else
      skipLineEnds fuel
      if (← current).isReserved .inWord then
        let keyword ← takeReserved
        let words ← wordList fuel
        let token ← current
        if wordsNeeded && words.isEmpty then unexpected
        else if token.isOperator .semicolon then
          let sign ← takeReserved
          skipLineEnds fuel
          return keyword :: words ++ [sign]
        else if token.kind = .lineEnd then
          skipLineEnds fuel
          return keyword :: words
        else unexpected
      else return []

/-- The body of a `for` or `select`, between `do` and `done` or between braces. -/
def loopBody (closed : Bool) : Nat → Parser (List Tree)
  | 0 => throw .unreadable
  | fuel + 1 => do
    if (← current).isReserved .leftBrace then
      let opener ← takeReserved
      let inside ← body closed fuel
      let closer ← expectReserved .rightBrace
      return [opener, inside, closer]
    else
      let opener ← expectReserved .doWord
      let inside ← body closed fuel
      let closer ← expectReserved .doneWord
      return [opener, inside, closer]

/-- A loop over words. -/
def forLoop : Nat → Parser Tree
  | 0 => throw .unreadable
  | fuel + 1 => do
    let keyword ← takeReserved
    let name ← current
    if name.kind ≠ .word then unexpected
    else
      advance
      let head ← loopHead false fuel
      let inside ← loopBody false fuel
      requireCompoundEnd
      let name ← expandWord name
      return clause .forClause (keyword :: name :: head ++ inside)

/-- A menu is read and not analysed. -/
def selection : Nat → Parser Tree
  | 0 => throw .unreadable
  | fuel + 1 => do
    advance
    let name ← current
    if name.kind ≠ .word then unexpected
    else
      advance
      let _ ← loopHead true fuel
      let _ ← loopBody true fuel
      requireCompoundEnd
      unsupported "select command" "select" (some (String.ofList name.text))

/-- A case is read up to its first pattern and not analysed. -/
def caseCommand : Nat → Parser Tree
  | 0 => throw .unreadable
  | fuel + 1 => do
    advance
    let subject ← current
    if subject.kind ≠ .word then unexpected
    else
      advance
      skipLineEnds fuel
      let _ ← expectReserved .inWord
      skipLineEnds fuel
      if (← current).isReserved .esacWord then
        advance
        requireCompoundEnd
        unsupported "case command" "case" (some (String.ofList subject.text))
      else
        if (← current).isOperator .leftParen then advance
        let pattern ← current
        if pattern.kind ≠ .word then unexpected
        else
          advance
          let next ← current
          if next.isOperator .bar || next.isOperator .rightParen then
            unsupported "pattern" (String.ofList pattern.text) none
          else unexpected

end

/-! ## Statements -/

/-- Reads the lines of the here-documents announced so far. -/
def gather : Parser Unit := do
  let state ← get
  let lexer ← state.lexer.gather (← read).offset
  set { state with lexer := lexer }

/-- The rest of a statement after the parts read, which are kept in reverse. `separated` says
whether a semicolon or nothing stands before the last part. -/
def statementRest (separated : Bool) : Nat → List Tree → Parser Tree
  | 0, _ => throw .unreadable
  | fuel + 1, parts => do
    let token ← current
    if token.isOperator .andIf || token.isOperator .orIf then
      let sign ← takeOperator
      skipLineEnds fuel
      let next ← pipeline fuel
      statementRest false fuel (next :: sign :: parts)
    else if token.isOperator .ampersand || token.isOperator .semicolon then
      let sign ← takeOperator
      let parts := sign :: parts
      if (← current).kind = .lineEnd then
        gather
        advance
        return .statements (.ofParts parts.reverse) parts.reverse
      else
        let next ← pipeline fuel
        statementRest (token.isOperator .semicolon) fuel (next :: parts)
    else if token.kind = .lineEnd then
      gather
      advance
      return .ofStatements parts.reverse
    else if token.isOperator .rightParen && separated then
      gather
      if (← read).closing then return .ofStatements parts.reverse else unexpected
    else unexpected

/-- One statement with its line end; `none` where the text holds none. -/
def statement? (fuel : Nat) : Parser (Option Tree) := do
  skipLineEnds fuel
  if (← current).kind = .endOfText then return none
  else
    let first ← pipeline fuel
    some <$> statementRest true fuel [first]

end Parser

/-- The first statement of a text that stands at a place of the whole text. -/
def firstStatement? (inner : StatementReader) (text : List Char) (offset : Nat) (closing : Bool) :
    Except ParseError (Option Reading) := do
  let setting : Setting := ⟨inner, offset, text.length, closing⟩
  let (token, lexer) ← (Lexer.ofText text).read offset
  let fuel := 8 * text.length + 16
  let (tree?, state) ← ((Parser.statement? fuel).run setting).run ⟨lexer, token, []⟩
  return tree?.map (⟨·, state.lexer.documents ++ state.documents⟩)

/-- The first statement of the inside of a substitution, when substitutions may nest so deep. -/
def nestedStatement : Nat → StatementReader
  | 0, _, _, _ => throw .unreadable
  | depth + 1, text, offset, closing => do
    let some reading ← firstStatement? (nestedStatement depth) text offset closing
      | throw .unreadable
    return reading

/-- Where a statement ends: after its tree and after the here-document that is last in it. -/
def Reading.stop (reading : Reading) : Nat :=
  let document := reading.tree.lastDocument?.bind fun key => reading.documents.lookup key
  max reading.tree.span.stop (document.getD 0)

/-- The statements of the rest of a text from a place of the whole text on. -/
def treesFrom (depth : Nat) : Nat → (text : List Char) → (offset : Nat) →
    Except ParseError (List Tree)
  | 0, _, _ => return []
  | fuel + 1, text, offset => do
    if text.isEmpty then return []
    else
      let some reading ← firstStatement? (nestedStatement depth) text offset false | return []
      let next := reading.stop + 1
      return reading.tree :: (← treesFrom depth fuel (text.drop (next - offset)) next)

/-- The statements of a text, which has to hold one. -/
def readTrees (text : String) : Except ParseError (List Tree) := do
  let depth := text.length + 1
  match ← treesFrom depth depth text.toList 0 with
  | [] => throw .unreadable
  | trees => return trees

end ShellVet.Shell
