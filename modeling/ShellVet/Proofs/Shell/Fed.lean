import ShellVet.Proofs.Shell.Lexed

/-!
# Parsers that are fed tokens

`Takes` says of a parser which tokens it takes from those in front of it, and what holds of its
result. It runs through `bind`, so a function of the grammar is followed step by step, with no word
about states. The arguments of printed scripts expand to what they hand over.
-/

namespace ShellVet.Shell

open Plain

/-! ## Words without expansions -/

theorem expandFrom_bare (statement : StatementReader) (doubleQuoted : Bool) (start : Nat)
    {chars : List Char} (bare : chars.all isBare = true) (e : Expanded) {fuel place : Nat}
    (enough : chars.length ≤ fuel) :
    expandFrom statement doubleQuoted start fuel place e chars =
      .ok { e with text := chars.reverse ++ e.text } := by
  induction chars generalizing e fuel place with
  | nil => cases fuel <;> rfl
  | cons c chars ih =>
    obtain ⟨fuel, rfl⟩ : ∃ more, fuel = more + 1 := ⟨fuel - 1, by simp at enough; omega⟩
    obtain ⟨first, others⟩ := Bool.and_eq_true_iff.mp bare
    have none : c ∉ ['<', '>', '~', '$', grave, '\\', '"', '\''] :=
      not_mem_of_class first (by decide)
    simp only [List.mem_cons, List.not_mem_nil, or_false, not_or] at none
    obtain ⟨notLess, notGreater, notTilde, notDollar, notGrave, notBackslash, notQuote,
      notApostrophe⟩ := none
    have pushed : expandFrom statement doubleQuoted start fuel (place + 1) (e.push c) chars = _ :=
      ih others (e.push c) (by simpa using enough)
    unfold expandFrom
    simp only [notLess, notGreater, notTilde, notDollar, notGrave, notBackslash, notQuote,
      notApostrophe, decide_false, Bool.or_self, Bool.false_and, Bool.false_eq_true, if_false]
    refine pushed.trans ?_
    simp [Expanded.push]

/-- An argument expands to what it hands over. -/
theorem expand_argument (statement : StatementReader) (place : Nat) (argument : Argument) :
    expand statement place argument.text = .ok { text := argument.value.reverse } := by
  cases argument with
  | bare word =>
    obtain ⟨chars, nonempty, bare⟩ := word
    have notLiteral : isLiteral chars = false := by
      cases chars with
      | nil => rfl
      | cons c chars =>
        have notApostrophe : c ≠ '\'' := ne_of_isBare (Bool.and_eq_true_iff.mp bare).1 (by decide)
        simp [isLiteral, notApostrophe]
    change expand statement place chars = .ok { text := chars.reverse }
    rw [expand, notLiteral, if_neg (by decide), expandFrom_bare _ _ _ bare _ (Nat.le_succ _),
      List.append_nil]
  | quoted text =>
    have literal : isLiteral ('\'' :: (text ++ ['\''])) = true := by
      rw [isLiteral, ← List.cons_append, List.getLast?_concat]
      rfl
    change expand statement place ('\'' :: (text ++ ['\''])) = .ok { text := text.reverse }
    rw [expand, if_pos literal, List.tail_cons, List.dropLast_concat]
    rfl

/-! ## Parsers that are fed tokens -/

/-- The tokens the parser has before it: the one to decide on and those its lexer reads after it.
No here-document was announced. -/
structure ParserState.Feeds (state : ParserState) (offset : Nat) (tokens : List Token) : Prop where
  current : tokens.head? = some state.token
  later : state.lexer.Reads offset tokens.tail
  pending : state.lexer.pending = []
  lexed : state.lexer.documents = []
  expanded : state.documents = []

namespace Parser

variable {α β : Type} {setting : Setting} {token next : Token}
  {rest before between after : List Token} {P : α → Prop} {Q : β → Prop}

/-- With the tokens `before` in front of it, the parser has a result with the property, and the
tokens `after` are left. -/
def Takes (setting : Setting) (parser : Parser α) (before after : List Token) (P : α → Prop) :
    Prop :=
  ∀ state : ParserState, state.Feeds setting.offset before → ∃ result next,
    parser setting state = .ok (result, next) ∧ P result ∧ next.Feeds setting.offset after

theorem Takes.pure {result : α} (holds : P result) : Takes setting (pure result) after after P :=
  fun state feeds => ⟨result, state, rfl, holds, feeds⟩

theorem Takes.bind {first : Parser α} {later : α → Parser β}
    (taken : Takes setting first before between P)
    (then' : ∀ result, P result → Takes setting (later result) between after Q) :
    Takes setting (first >>= later) before after Q := by
  intro state feeds
  obtain ⟨result, middle, ran, holds, feeds⟩ := taken state feeds
  obtain ⟨last, stop, ran', holds', feeds'⟩ := then' result holds middle feeds
  refine ⟨last, stop, ?_, holds', feeds'⟩
  change (first setting state >>= fun done => later done.1 setting done.2) = _
  rw [ran]
  exact ran'

theorem Takes.map {parser : Parser α} {f : α → β} (taken : Takes setting parser before after P)
    (then' : ∀ result, P result → Q (f result)) : Takes setting (f <$> parser) before after Q :=
  taken.bind fun result holds => .pure (then' result holds)

theorem run_lift {computation : Except ParseError α} {result : α}
    (ran : computation = .ok result) (setting : Setting) (state : ParserState) :
    (liftM computation : Parser α) setting state = .ok (result, state) := by
  change (computation >>= fun value => .ok (value, state)) = _
  rw [ran]
  rfl

theorem Takes.current {later : Token → Parser β}
    (then' : Takes setting (later token) (token :: rest) after Q) :
    Takes setting (current >>= later) (token :: rest) after Q := by
  intro state feeds
  obtain rfl : token = state.token := Option.some.inj feeds.current
  exact then' state feeds

theorem takes_advance :
    Takes setting advance (token :: next :: rest) (next :: rest) (fun _ => True) := by
  intro state feeds
  obtain ⟨lexer, read, pending, documents, reads⟩ := feeds.later
  refine ⟨(), { state with lexer, token := next }, ?_, trivial,
    rfl, reads, pending, documents, feeds.expanded⟩
  change ((liftM (state.lexer.read setting.offset) : Parser (Token × Lexer)) setting state >>=
    fun (moved, _) => .ok ((), { state with lexer := moved.2, token := moved.1 })) = _
  rw [run_lift read]
  rfl

theorem Takes.advance {later : Unit → Parser β}
    (then' : Takes setting (later ()) (next :: rest) after Q) :
    Takes setting (advance >>= later) (token :: next :: rest) after Q :=
  takes_advance.bind fun _ _ => then'

theorem Takes.read {later : Setting → Parser β}
    (then' : Takes setting (later setting) before after Q) :
    Takes setting (read >>= later) before after Q :=
  then'

theorem Takes.lift {computation : Except ParseError α} {result : α}
    (ran : computation = .ok result) {later : α → Parser β}
    (then' : Takes setting (later result) before after Q) :
    Takes setting (liftM computation >>= later) before after Q := by
  have lifted : Takes setting (liftM computation) before before (· = result) :=
    fun state feeds => ⟨result, state, run_lift ran setting state, rfl, feeds⟩
  exact lifted.bind fun _ same => same ▸ then'

theorem takes_skipLineEnds (fuel : Nat) (other : token.kind ≠ .lineEnd) :
    Takes setting (skipLineEnds fuel) (token :: rest) (token :: rest) fun _ => True := by
  cases fuel with
  | zero => exact .pure trivial
  | succ fuel =>
    refine .current ?_
    rw [if_neg other]
    exact .pure trivial

theorem takes_takeOperator :
    Takes setting takeOperator (token :: next :: rest) (next :: rest) fun tree =>
      ∃ span text, tree = .operator span text :=
  .current (.advance (.read (.pure ⟨_, _, rfl⟩)))

/-- No lines of here-documents are to come. -/
theorem takes_gather : Takes setting gather before before fun _ => True := by
  intro state feeds
  have gathered : state.lexer.gather setting.offset = .ok state.lexer := by
    obtain ⟨⟨place, last, beforeLast, openBraces, esacsWanted, casePattern, braceAllowed, pending,
      documents⟩, token, expanded⟩ := state
    obtain rfl : pending = [] := feeds.pending
    obtain rfl : documents = [] := feeds.lexed
    rfl
  refine ⟨(), state, ?_, trivial, feeds⟩
  change ((liftM (state.lexer.gather setting.offset) : Parser Lexer) setting state >>=
    fun (lexer, _) => .ok ((), { state with lexer })) = _
  rw [run_lift gathered]
  rfl

/-- A token of a printed text may follow a part of a command. -/
theorem takes_requireContinuation {piece : Piece} (kind : next.kind = piece.kind) :
    Takes setting requireContinuation (next :: rest) (next :: rest) fun _ => True := by
  have continues : (next.extendsCommand || next.endsCommand) = true := by
    cases piece with
    | word => simp [Token.extendsCommand, kind, Piece.kind]
    | sign mark => cases mark <;> simp [Token.endsCommand, kind, Piece.kind, Sign.kind]
  refine .current ?_
  rw [continues, if_neg (by decide)]
  exact .pure trivial

theorem takes_expandWord {argument : Argument} (text : token.text = argument.text) :
    Takes setting (expandWord token) before before fun tree =>
      tree = .word ⟨setting.offset + token.start, setting.offset + token.stop⟩
        (String.ofList argument.value) [] := by
  have expanded := expand_argument setting.inner (setting.offset + token.start) argument
  rw [← text] at expanded
  have expandToken : Takes setting (expandToken token) before before fun result =>
      result = (String.ofList argument.value, []) := by
    refine .read (.lift expanded ?_)
    intro state feeds
    refine ⟨_, _, rfl, ?_, feeds.current, feeds.later, feeds.pending, feeds.lexed, ?_⟩
    · rw [List.reverse_reverse]
      rfl
    · change state.documents ++ [] = []
      rw [feeds.expanded]
      rfl
  refine expandToken.bind ?_
  rintro _ rfl
  exact .read (.pure rfl)

end Parser

end ShellVet.Shell
