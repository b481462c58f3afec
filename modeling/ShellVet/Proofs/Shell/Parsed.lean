import ShellVet.Proofs.Shell.Grammatical
import ShellVet.Proofs.Shell.Passed

/-!
# What the parser builds

A specification says what is asked of texts, of the trees among statements and of the trees in
simple commands (`TreeSpec`). It is lawful when reading leaves such texts behind, expanding such
words gives such trees, and such trees make such trees. Then every function of the grammar yields
the trees its caller puts in their place, and every statement of a text is as specified
(`TreeSpec.Lawful.of_readTrees`). Grammatical trees are one specification: every statement of a text
is grammatical (`isStatement_of_readTrees`).
-/

namespace ShellVet.Shell

/-! ## Specifications -/

/-- Whether a command substitution stands at the start of the text. -/
def startsSubstitution : List Char → Bool
  | '$' :: '(' :: _ => true
  | c :: rest => c = grave && (untilGrave rest).isSome
  | [] => false

/-- What is asked of texts and of trees, by the places where the grammar puts them. -/
structure TreeSpec where
  text : List Char → Prop
  /-- Of the trees among statements. -/
  statement : Tree → Prop
  /-- Of the trees in a simple command and below its words. -/
  element : Tree → Prop

namespace TreeSpec

variable (spec : TreeSpec)

/-- The trees may stand among statements. -/
def Statements (trees : List Tree) : Prop := ∀ tree ∈ trees, spec.statement tree

/-- The trees may stand in a simple command. -/
def Elements (trees : List Tree) : Prop := ∀ tree ∈ trees, spec.element tree

/-- The statements inside substitutions are as specified. -/
def Reads (reader : StatementReader) : Prop :=
  ∀ text place closing, spec.text text →
    Gives (fun reading => spec.statement reading.tree) (reader text place closing)

/-- Reading and building keep to the specification. -/
structure Lawful : Prop where
  part : ∀ {part text : List Char}, part <:+: text → spec.text text → spec.text part
  passed : ∀ {before read after : List Char}, Passes before read after → spec.text before →
    spec.text (read ++ after)
  reserved : ∀ span text, spec.statement (.reserved span text)
  operator : ∀ span text, spec.statement (.operator span text)
  pipe : ∀ span text, spec.statement (.pipe span text)
  parameter : ∀ span name, spec.element (.parameter span name)
  tilde : ∀ span text, spec.element (.tilde span text)
  channel : ∀ name, spec.element (.channel name)
  commandSubstitution : ∀ span {text body}, spec.text text → startsSubstitution text = true →
    spec.statement body → spec.element (.commandSubstitution span body)
  processSubstitution : ∀ span {body}, spec.statement body →
    spec.element (.processSubstitution span body)
  word : ∀ span text {parts}, spec.Elements parts →
    spec.statement (.word span text parts) ∧ spec.element (.word span text parts)
  assignment : ∀ span text {parts}, spec.Elements parts → spec.element (.assignment span text parts)
  redirect : ∀ span source sign {target}, spec.element target →
    spec.element (.redirect span source sign target)
  command : ∀ span {parts}, spec.Elements parts → spec.statement (.command span parts)
  pipeline : ∀ span {parts}, spec.statement (.pipeline span parts) ↔ spec.Statements parts
  statements : ∀ span {parts}, spec.Statements parts → spec.statement (.statements span parts)
  clause : ∀ kind span {parts}, spec.Statements parts → spec.statement (.clause kind span parts)
  function : ∀ span {parts}, spec.Statements parts → spec.statement (.function span parts)
  compound : ∀ span {body redirects}, spec.statement (.compound span body redirects) ↔
    spec.Statements body ∧ spec.Elements redirects

variable {spec} {tree : Tree} {rest front back : List Tree}

theorem Statements.nil : spec.Statements [] := nofun

theorem Statements.cons (first : spec.statement tree) (more : spec.Statements rest) :
    spec.Statements (tree :: rest) :=
  List.forall_mem_cons.2 ⟨first, more⟩

theorem Statements.single (only : spec.statement tree) : spec.Statements [tree] := .cons only .nil

theorem Statements.append (first : spec.Statements front) (second : spec.Statements back) :
    spec.Statements (front ++ back) :=
  List.forall_mem_append.2 ⟨first, second⟩

theorem Statements.reverse (statements : spec.Statements rest) : spec.Statements rest.reverse :=
  fun tree among => statements tree (List.mem_reverse.1 among)

theorem Elements.nil : spec.Elements [] := nofun

theorem Elements.cons (first : spec.element tree) (more : spec.Elements rest) :
    spec.Elements (tree :: rest) :=
  List.forall_mem_cons.2 ⟨first, more⟩

theorem Elements.append (first : spec.Elements front) (second : spec.Elements back) :
    spec.Elements (front ++ back) :=
  List.forall_mem_append.2 ⟨first, second⟩

theorem Elements.reverse (elements : spec.Elements rest) : spec.Elements rest.reverse :=
  fun tree among => elements tree (List.mem_reverse.1 among)

/-- A token of such a text is such a text, and what comes after it is. -/
theorem Lawful.found (lawful : spec.Lawful) {lexer : Lexer} {found : Token × Lexer}
    (finds : lexer.Finds found) (known : spec.text lexer.place.rest) :
    spec.text found.1.text ∧ spec.text found.2.place.rest := by
  obtain ⟨read, stands, passed⟩ := finds
  have kept := lawful.passed passed known
  refine ⟨lawful.part ?_ kept, lawful.part (List.suffix_append _ _).isInfix kept⟩
  exact stands.trans (List.prefix_append _ _).isInfix

/-! ## Words -/

section

variable (lawful : spec.Lawful) {reader : StatementReader} (sound : spec.Reads reader)

include lawful sound

/-- What is added to a word is a leaf, or a substitution around a statement. -/
theorem gives_expandFrom (doubleQuoted : Bool) (first fuel place : Nat) (e : Expanded)
    {rest : List Char} (known : spec.text rest) (elements : spec.Elements e.parts) :
    Gives (fun expanded => spec.Elements expanded.parts)
      (expandFrom reader doubleQuoted first fuel place e rest) := by
  induction fuel generalizing place e rest with
  | zero =>
    rw [expandFrom]
    exact .pure elements
  | succ fuel ih =>
    cases rest with
    | nil => exact Gives.pure elements
    | cons c rest =>
      have after {part : List Char} (stands : part <:+: rest) : spec.text part :=
        lawful.part (stands.trans (List.suffix_cons c rest).isInfix) known
      have goOn (place : Nat) (e : Expanded) (taken : Nat) (elements : spec.Elements e.parts) :=
        ih place e (after (List.drop_suffix taken rest).isInfix) elements
      unfold expandFrom
      dsimp only
      split
      · refine (sound _ _ _ (after (List.tail_suffix rest).isInfix)).bind
          fun reading statement => ?_
        exact goOn _ _ _ (.cons (lawful.processSubstitution _ statement) elements)
      split
      · split
        · split
          · exact goOn _ _ _ (.cons (lawful.tilde _ _) elements)
          · exact goOn _ _ _ elements
        · exact goOn _ _ _ (.cons (lawful.tilde _ _) elements)
      split
      case isTrue dollar =>
        split
        · exact .throw _
        case h_2 inner _ _ =>
          refine (sound _ _ _ (after (List.suffix_cons _ inner).isInfix)).bind ?_
          intro reading statement
          have marked : startsSubstitution (c :: '(' :: inner) = true := by
            rw [of_decide_eq_true (Bool.and_eq_true_iff.1 dollar).1]
            rfl
          exact goOn _ _ _ (.cons (lawful.commandSubstitution _ known marked statement) elements)
        · exact .throw _
        · exact goOn _ _ _ (.cons (lawful.parameter _ _) elements)
      split
      case isTrue accent =>
        split
        · exact goOn _ _ _ elements
        split
        · exact .throw _
        case h_2 inner found =>
          refine (sound _ _ _ (after (List.take_prefix inner rest).isInfix)).bind ?_
          intro reading statement
          have marked : startsSubstitution (c :: rest) = true := by
            simp [startsSubstitution, accent, grave, found]
          exact goOn _ _ _ (.cons (lawful.commandSubstitution _ known marked statement) elements)
      split
      · split
        · exact goOn _ _ 1 elements
        · exact goOn _ _ 0 elements
      split
      · exact goOn _ _ 0 elements
      split
      · split
        · exact goOn _ _ 0 elements
        · exact goOn _ _ 0 elements
      · exact goOn _ _ 0 elements

theorem gives_expand (place : Nat) {word : List Char} (known : spec.text word) :
    Gives (fun expanded => spec.Elements expanded.parts) (expand reader place word) := by
  unfold expand
  split
  · exact .pure .nil
  · exact gives_expandFrom lawful sound _ _ _ _ _ known .nil

end

end TreeSpec

namespace Parser

/-! ## Steps of the parser -/

/-- The token to decide on and the text after it are as specified. -/
structure Holds (spec : TreeSpec) (state : ParserState) : Prop where
  token : spec.text state.token.text
  rest : spec.text state.lexer.place.rest

/-- Where the text is as specified, so is what the parser leaves of it, and every result has the
property. -/
def Yields (spec : TreeSpec) {α : Type} (P : α → Prop) (parser : Parser α) : Prop :=
  ∀ setting, spec.Reads setting.inner → ∀ state, Holds spec state →
    Gives (fun (result, state) => P result ∧ Holds spec state) (parser setting state)

/-- The parser has no result. -/
def Refuses {α : Type} (parser : Parser α) : Prop :=
  ∀ setting state, Gives (fun _ => False) (parser setting state)

section

variable {spec : TreeSpec} {α β : Type} {P : α → Prop} {Q : β → Prop}

theorem Refuses.throw (error : ParseError) : Refuses (throw error : Parser α) :=
  fun _ _ => Gives.throw error

/-- Whatever comes before a refusal. -/
theorem Refuses.after {first : Parser α} {next : α → Parser β}
    (then' : ∀ result, Refuses (next result)) : Refuses (first >>= next) :=
  fun setting _ => Gives.bind (P := fun _ => True) (fun _ _ => trivial) fun result _ =>
    then' result.1 setting result.2

theorem Refuses.yields {parser : Parser α} (refuses : Refuses parser) : Yields spec P parser :=
  fun setting _ _ _ => (refuses setting _).imp fun _ impossible => impossible.elim

theorem Yields.pure {result : α} (holds : P result) : Yields spec P (pure result) :=
  fun _ _ _ known => Gives.pure ⟨holds, known⟩

theorem Yields.throw (error : ParseError) : Yields spec P (throw error) :=
  (Refuses.throw error).yields

theorem Yields.bind {first : Parser α} {next : α → Parser β} (yielded : Yields spec P first)
    (then' : ∀ result, P result → Yields spec Q (next result)) : Yields spec Q (first >>= next) :=
  fun setting sound state known => (yielded setting sound state known).bind fun result holds =>
    then' result.1 holds.1 setting sound result.2 holds.2

theorem Yields.imp {P' : α → Prop} {parser : Parser α} (yielded : Yields spec P parser)
    (implies : ∀ result, P result → P' result) : Yields spec P' parser :=
  fun setting sound state known => (yielded setting sound state known).imp fun _ holds =>
    holds.imp_left (implies _)

theorem Yields.map {first : Parser α} {f : α → β} (yielded : Yields spec P first)
    (then' : ∀ result, P result → Q (f result)) : Yields spec Q (f <$> first) :=
  yielded.bind fun result holds => .pure (then' result holds)

/-- A step that is taken for what it does to the state. -/
theorem Yields.after {first : Parser α} {next : α → Parser β}
    (step : Yields spec (fun _ => True) first) (then' : ∀ result, Yields spec Q (next result)) :
    Yields spec Q (first >>= next) :=
  step.bind fun result _ => then' result

theorem Yields.read {next : Setting → Parser β}
    (then' : ∀ setting, spec.Reads setting.inner → Yields spec Q (next setting)) :
    Yields spec Q (read >>= next) :=
  fun setting sound state known => then' setting sound setting sound state known

theorem Yields.lift {computation : Except ParseError α} (given : Gives P computation) :
    Yields spec P (liftM computation) :=
  fun _ _ _ known => given.bind fun _ holds => .pure ⟨holds, known⟩

theorem Yields.modify {change : ParserState → ParserState}
    (kept : ∀ state, Holds spec state → Holds spec (change state)) :
    Yields spec (fun _ => True) (modify change) :=
  fun _ _ state known => Gives.pure ⟨trivial, kept state known⟩

theorem Yields.get {next : ParserState → Parser β}
    (then' : ∀ state, Holds spec state → Yields spec Q (next state)) :
    Yields spec Q (get >>= next) :=
  fun setting sound state known => then' state known setting sound state known

theorem Yields.set {state : ParserState} (known : Holds spec state) :
    Yields spec (fun _ => True) (set state) :=
  fun _ _ _ _ => Gives.pure ⟨trivial, known⟩

theorem Yields.current {next : Token → Parser β}
    (then' : ∀ token, spec.text token.text → Yields spec Q (next token)) :
    Yields spec Q (current >>= next) :=
  fun setting sound state known => then' state.token known.token setting sound state known

theorem Yields.spanOf {token : Token} {next : Span → Parser β}
    (then' : ∀ span, Yields spec Q (next span)) : Yields spec Q (spanOf token >>= next) :=
  .after (.read fun _ _ => .pure trivial) then'

theorem refuses_unexpected : Refuses (unexpected : Parser α) := by
  refine .after fun token => ?_
  cases token.kind with
  | endOfText => exact .after fun _ => .throw _
  | _ => exact .throw _

theorem refuses_unsupported (rule head : String) (argument : Option String) :
    Refuses (unsupported rule head argument : Parser α) :=
  .throw _

theorem yields_unexpected : Yields spec P unexpected := refuses_unexpected.yields

end

section

variable {spec : TreeSpec} (lawful : spec.Lawful)

include lawful

theorem yields_advance : Yields spec (fun _ => True) advance := by
  refine .get fun state known => .read fun setting _ => ?_
  refine (Yields.lift (state.lexer.gives_read _)).bind fun (token, lexer) finds => .set ?_
  exact ⟨(lawful.found finds known.rest).1, (lawful.found finds known.rest).2⟩

theorem yields_gather : Yields spec (fun _ => True) gather := by
  refine .get fun state known => .read fun setting _ => ?_
  refine (Yields.lift (state.lexer.gives_gather _)).bind fun lexer ⟨_, passed⟩ => .set ?_
  have kept := lawful.passed passed known.rest
  exact ⟨known.token, lawful.part (List.suffix_append _ _).isInfix kept⟩

theorem yields_skipLineEnds (fuel : Nat) : Yields spec (fun _ => True) (skipLineEnds fuel) := by
  induction fuel with
  | zero => exact .pure trivial
  | succ fuel ih =>
    refine .current fun token _ => ?_
    split
    · exact .after (yields_advance lawful) fun _ => ih
    · exact .pure trivial

theorem yields_takeReserved : Yields spec spec.statement takeReserved :=
  .current fun _ _ => .after (yields_advance lawful) fun _ => .spanOf fun _ =>
    .pure (lawful.reserved _ _)

theorem yields_takeOperator : Yields spec spec.statement takeOperator :=
  .current fun _ _ => .after (yields_advance lawful) fun _ => .spanOf fun _ =>
    .pure (lawful.operator _ _)

theorem yields_expectReserved (name : Reserved) :
    Yields spec spec.statement (expectReserved name) := by
  refine .current fun token _ => ?_
  split
  · exact yields_takeReserved lawful
  · exact yields_unexpected

theorem yields_expectOperator (sign : Operator) :
    Yields spec spec.statement (expectOperator sign) := by
  refine .current fun token _ => ?_
  split
  · exact yields_takeReserved lawful
  · exact yields_unexpected

omit lawful in
theorem yields_requireContinuation : Yields spec (fun _ => True) requireContinuation := by
  refine .current fun token _ => ?_
  split
  · exact yields_unexpected
  · exact .pure trivial

omit lawful in
theorem yields_requireCompoundEnd : Yields spec (fun _ => True) requireCompoundEnd := by
  refine .current fun token _ => ?_
  split
  · exact yields_unexpected
  · exact .pure trivial

/-! ## Simple commands -/

theorem yields_expandToken {token : Token} (known : spec.text token.text) :
    Yields spec (fun expanded => spec.Elements expanded.2) (expandToken token) := by
  refine .read fun setting sound => ?_
  refine (Yields.lift (TreeSpec.gives_expand lawful sound _ known)).bind fun expanded elements => ?_
  refine .after (.modify fun _ holds => ⟨holds.token, holds.rest⟩) fun _ => ?_
  exact .pure elements.reverse

/-- A word stands among statements, in a loop, as well as in a command. -/
theorem yields_expandWord {token : Token} (known : spec.text token.text) :
    Yields spec (fun tree => spec.statement tree ∧ spec.element tree) (expandWord token) :=
  (yields_expandToken lawful known).bind fun (_, _) elements => .spanOf fun _ =>
    .pure (lawful.word _ _ elements)

theorem yields_redirectTarget (key : Nat) (sign : Operator) :
    Yields spec spec.element (redirectTarget key sign) := by
  have number {token : Token} : Yields spec spec.element (do
      advance
      requireContinuation
      return .channel token.lexeme) :=
    .after (yields_advance lawful) fun _ => .after yields_requireContinuation fun _ =>
      .pure (lawful.channel _)
  refine .current fun token known => ?_
  dsimp only
  split
  · refine .after (yields_advance lawful) fun _ => .after yields_requireContinuation fun _ => ?_
    split
    · refine .after (.modify fun _ holds => ⟨holds.token, holds.rest⟩) fun _ => .spanOf fun _ => ?_
      exact .pure (lawful.word _ _ .nil).2
    · exact (yields_expandWord lawful known).imp fun _ word => word.2
  · split
    · exact number
    · exact yields_unexpected
  · split
    · exact number
    · exact yields_unexpected
  · exact yields_unexpected

theorem yields_redirect : Yields spec spec.element redirect := by
  refine .current fun first _ => ?_
  -- with a source or without one, the sign and the target are read alike
  extract_lets afterSource
  have target : ∀ source, Yields spec spec.element (afterSource source) := by
    intro source
    refine .current fun token _ => ?_
    dsimp only
    split
    · split
      · refine .spanOf fun _ => .after (yields_advance lawful) fun _ => .current fun last _ => ?_
        refine (yields_redirectTarget lawful _ _).bind fun target element => .spanOf fun _ => ?_
        exact .pure (lawful.redirect _ _ _ element)
      · exact yields_unexpected
    · exact yields_unexpected
  split
  · exact .after (yields_advance lawful) fun _ => .after (.pure trivial) fun _ => target _
  · exact .after (.pure trivial) fun _ => target _

theorem yields_element : Yields spec spec.element element := by
  refine .current fun token known => ?_
  dsimp only
  split
  · refine .after (yields_advance lawful) fun _ => .after yields_requireContinuation fun _ => ?_
    exact (yields_expandWord lawful known).imp fun _ word => word.2
  · refine .after (yields_advance lawful) fun _ => .after yields_requireContinuation fun _ => ?_
    refine (yields_expandToken lawful known).bind fun (_, _) elements => .spanOf fun _ => ?_
    exact .pure (lawful.assignment _ _ elements)
  · exact yields_redirect lawful

theorem yields_elements (fuel : Nat) : Yields spec spec.Elements (elements fuel) := by
  induction fuel with
  | zero => exact .throw _
  | succ fuel ih =>
    refine .current fun token _ => ?_
    split
    · refine (yields_element lawful).bind fun part element => ih.bind fun parts elements => ?_
      exact .pure (.cons element elements)
    · exact .pure .nil

theorem yields_redirects (fuel : Nat) : Yields spec spec.Elements (redirects fuel) := by
  induction fuel with
  | zero => exact .throw _
  | succ fuel ih =>
    refine .current fun token _ => ?_
    split
    · refine (yields_redirect lawful).bind fun part element => ih.bind fun parts elements => ?_
      exact .pure (.cons element elements)
    · refine .current fun token _ => ?_
      split
      · exact .pure .nil
      · exact yields_unexpected

theorem yields_wordList (fuel : Nat) : Yields spec spec.Statements (wordList fuel) := by
  induction fuel with
  | zero => exact .throw _
  | succ fuel ih =>
    refine .current fun token known => ?_
    split
    · refine .after (yields_advance lawful) fun _ => .current fun after _ => ?_
      split
      · refine (yields_expandWord lawful known).bind fun part word => ?_
        exact ih.bind fun parts words => .pure (.cons word.1 words)
      · exact yields_unexpected
    · exact .pure .nil

/-! ## Compound commands -/

theorem statement_ofStatements {parts : List Tree} (statements : spec.Statements parts) :
    spec.statement (.ofStatements parts) := by
  unfold Tree.ofStatements
  split
  · exact statements _ (.head _)
  · exact lawful.statements _ statements

theorem statement_withRedirects {tree : Tree} {parts : List Tree} (statement : spec.statement tree)
    (elements : spec.Elements parts) : spec.statement (withRedirects tree parts) := by
  unfold withRedirects
  split
  · obtain ⟨body, own⟩ := (lawful.compound _).1 statement
    exact (lawful.compound _).2 ⟨body, own.append elements⟩
  · exact statement

theorem statement_clause (kind : Clause) {parts : List Tree} (statements : spec.Statements parts) :
    spec.statement (clause kind parts) :=
  (lawful.compound _).2 ⟨.single (lawful.clause _ _ statements), .nil⟩

theorem statement_bracketedBody {parts : List Tree} (statements : spec.Statements parts) :
    spec.statement (bracketedBody parts) :=
  (lawful.compound _).2 ⟨statements, .nil⟩

omit lawful in
theorem refuses_coprocess (fuel : Nat) : Refuses (coprocess fuel) := by
  cases fuel with
  | zero => exact .throw _
  | succ fuel =>
    refine .after fun _ => .after fun token => ?_
    split
    · exact .after fun _ => .after fun _ => refuses_unsupported _ _ _
    split
    · refine .after fun _ => .after fun next => ?_
      split
      · exact .after fun _ => .after fun _ => refuses_unsupported _ _ _
      · exact .after fun _ => .after fun _ => .after fun _ => refuses_unsupported _ _ _
    split
    · exact .after fun _ => refuses_unsupported _ _ _
    · exact refuses_unexpected

omit lawful in
theorem refuses_selection (fuel : Nat) : Refuses (selection fuel) := by
  cases fuel with
  | zero => exact .throw _
  | succ fuel =>
    refine .after fun _ => .after fun name => ?_
    split
    · exact refuses_unexpected
    · exact .after fun _ => .after fun _ => .after fun _ => .after fun _ =>
        refuses_unsupported _ _ _

omit lawful in
theorem refuses_caseCommand (fuel : Nat) : Refuses (caseCommand fuel) := by
  cases fuel with
  | zero => exact .throw _
  | succ fuel =>
    refine .after fun _ => .after fun subject => ?_
    split
    · exact refuses_unexpected
    · refine .after fun _ => .after fun _ => .after fun _ => .after fun _ => .after fun token => ?_
      split
      · exact .after fun _ => .after fun _ => refuses_unsupported _ _ _
      · refine .after fun token => ?_
        extract_lets afterBracket
        have refused : ∀ skipped, Refuses (afterBracket skipped) := by
          intro skipped
          refine .after fun pattern => ?_
          split
          · exact refuses_unexpected
          · refine .after fun _ => .after fun next => ?_
            split
            · exact refuses_unsupported _ _ _
            · exact refuses_unexpected
        split
        · exact .after fun skipped => refused skipped
        · exact refused ()

theorem yields_loopHead (wordsNeeded : Bool) (fuel : Nat) :
    Yields spec spec.Statements (loopHead wordsNeeded fuel) := by
  cases fuel with
  | zero => exact .throw _
  | succ fuel =>
    have skip := yields_skipLineEnds lawful fuel
    refine .current fun token _ => ?_
    split
    · refine (yields_takeReserved lawful).bind fun sign signed => .after skip fun _ => ?_
      exact .pure (.single signed)
    · refine .after skip fun _ => .current fun token _ => ?_
      split
      · refine (yields_takeReserved lawful).bind fun keyword reserved => ?_
        refine (yields_wordList lawful fuel).bind fun words statements => .current fun token _ => ?_
        have front : spec.Statements (keyword :: words) := .cons reserved statements
        split
        · exact yields_unexpected
        split
        · refine (yields_takeReserved lawful).bind fun sign signed => .after skip fun _ => ?_
          exact .pure (front.append (.single signed))
        split
        · exact .after skip fun _ => .pure front
        · exact yields_unexpected
      · exact .pure .nil

end

/-- With this fuel every function of the grammar yields statements. -/
structure YieldsStatements (spec : TreeSpec) (fuel : Nat) : Prop where
  body : ∀ closed, Yields spec spec.statement (body closed fuel)
  bodyRest : ∀ closed parts, spec.Statements parts →
    Yields spec spec.Statements (bodyRest closed fuel parts)
  pipeline : Yields spec spec.statement (pipeline fuel)
  stages : Yields spec spec.Statements (stages fuel)
  command : Yields spec spec.statement (command fuel)
  functionBody : ∀ name brackets keyword, spec.text name.text → spec.Statements brackets →
    spec.Statements keyword.toList →
    Yields spec spec.statement (functionBody fuel name brackets keyword)
  compound : Yields spec spec.statement (compound fuel)
  conditional : Yields spec spec.Statements (conditional fuel)
  loop : ∀ kind, Yields spec spec.statement (loop kind fuel)
  loopBody : ∀ closed, Yields spec spec.Statements (loopBody closed fuel)
  forLoop : Yields spec spec.statement (forLoop fuel)

section

variable {spec : TreeSpec} (lawful : spec.Lawful) {fuel : Nat} (inside : YieldsStatements spec fuel)

include lawful inside

theorem yields_body (closed : Bool) : Yields spec spec.statement (body closed (fuel + 1)) := by
  refine .after (yields_skipLineEnds lawful fuel) fun _ => ?_
  refine inside.pipeline.bind fun first statement => ?_
  exact (inside.bodyRest closed [first] (.single statement)).map fun _ =>
    statement_ofStatements lawful

theorem yields_bodyRest (closed : Bool) (parts : List Tree) (statements : spec.Statements parts) :
    Yields spec spec.Statements (bodyRest closed (fuel + 1) parts) := by
  have further (sign : Tree) (signed : spec.statement sign) :
      Yields spec spec.Statements (do
        let next ← pipeline fuel
        bodyRest closed fuel (next :: sign :: parts)) :=
    inside.pipeline.bind fun next statement =>
      inside.bodyRest closed _ (.cons statement (.cons signed statements))
  refine .current fun token _ => ?_
  split
  · refine (yields_takeOperator lawful).bind fun sign signed => ?_
    exact .after (yields_skipLineEnds lawful fuel) fun _ => further sign signed
  split
  · refine (yields_takeOperator lawful).bind fun sign signed => ?_
    refine .after (yields_skipLineEnds lawful fuel) fun _ => .current fun after _ => ?_
    split
    · exact further sign signed
    split
    · exact .pure (statements.cons signed).reverse
    · exact .pure statements.reverse
  split
  · exact yields_unexpected
  · exact .pure statements.reverse

theorem yields_pipeline : Yields spec spec.statement (pipeline (fuel + 1)) := by
  refine .current fun token _ => ?_
  split
  · refine (yields_takeReserved lawful).bind fun bang reserved => .current fun next _ => ?_
    split
    · refine (yields_takeOperator lawful).bind fun sign signed => .current fun after _ => ?_
      split
      · exact yields_unexpected
      split
      · exact .throw _
      · exact .pure ((lawful.pipeline _).2 (.cons reserved (.single signed)))
    split
    · refine inside.pipeline.bind fun tree statement => ?_
      split
      · exact .pure ((lawful.pipeline _).2 (((lawful.pipeline _).1 statement).cons reserved))
      · exact .pure ((lawful.pipeline _).2 (.cons reserved (.single statement)))
    · exact yields_unexpected
  split
  · -- whatever options follow, a timed command is not analysed
    refine Refuses.yields (.after fun _ => .after fun option => ?_)
    extract_lets afterOptions
    have refused : ∀ skipped, Refuses (afterOptions skipped) := by
      intro skipped
      refine .after fun next => ?_
      split
      · exact refuses_unsupported _ _ _
      · exact refuses_unexpected
    split
    · refine .after fun _ => .after fun separator => ?_
      split
      · exact .after fun skipped => refused skipped
      · exact refused ()
    · exact refused ()
  · refine inside.command.bind fun first statement => inside.stages.bind fun rest statements => ?_
    split
    · exact .pure statement
    · exact .pure ((lawful.pipeline _).2 (statements.cons statement))

theorem yields_stages : Yields spec spec.Statements (stages (fuel + 1)) := by
  refine .current fun token _ => ?_
  split
  · refine .after (yields_advance lawful) fun _ => .spanOf fun _ => ?_
    refine .after (yields_skipLineEnds lawful fuel) fun _ => ?_
    refine inside.command.bind fun next statement => inside.stages.bind fun rest statements => ?_
    exact .pure (.cons (lawful.pipe _ _) (.cons statement statements))
  · exact .pure .nil

/-- A function whose name stands before brackets. -/
theorem yields_bracketedName {name : Token} (known : spec.text name.text) (keyword : Option Tree)
    (keywords : spec.Statements keyword.toList) :
    Yields spec spec.statement (do
      let opener ← takeReserved
      let closer ← expectOperator .rightParen
      functionBody fuel name [opener, closer] keyword) := by
  refine (yields_takeReserved lawful).bind fun opener opened => ?_
  refine (yields_expectOperator lawful _).bind fun closer closed => ?_
  exact inside.functionBody name _ keyword known (.cons opened (.single closed)) keywords

theorem yields_command : Yields spec spec.statement (command (fuel + 1)) := by
  refine .current fun token known => ?_
  split
  · refine .after (yields_advance lawful) fun _ => .current fun next _ => ?_
    split
    · exact yields_bracketedName lawful inside known none .nil
    · refine .after yields_requireContinuation fun _ => ?_
      refine (yields_expandWord lawful known).bind fun first word => ?_
      refine (yields_elements lawful fuel).bind fun parts elements => .pure ?_
      exact lawful.command _ (elements.cons word.2)
  split
  · exact (yields_elements lawful fuel).bind fun parts elements => .pure (lawful.command _ elements)
  split
  · refine (yields_takeReserved lawful).bind fun keyword reserved => .current fun name named => ?_
    split
    · exact yields_unexpected
    · refine .after (yields_advance lawful) fun _ => .current fun next _ => ?_
      have keywords : spec.Statements (some keyword).toList := .single reserved
      split
      · exact yields_bracketedName lawful inside named (some keyword) keywords
      · exact inside.functionBody name [] (some keyword) named .nil keywords
  split
  · exact (refuses_coprocess fuel).yields
  split
  · refine inside.compound.bind fun tree statement => ?_
    refine (yields_redirects lawful fuel).bind fun parts elements => .pure ?_
    exact statement_withRedirects lawful statement elements
  · exact yields_unexpected

theorem yields_functionBody (name : Token) (brackets : List Tree) (keyword : Option Tree)
    (known : spec.text name.text) (bracketed : spec.Statements brackets)
    (keywords : spec.Statements keyword.toList) :
    Yields spec spec.statement (functionBody (fuel + 1) name brackets keyword) := by
  refine .after (yields_skipLineEnds lawful fuel) fun _ => .current fun token _ => ?_
  split
  · refine inside.compound.bind fun tree statement => ?_
    refine (yields_redirects lawful fuel).bind fun parts elements => ?_
    refine (yields_expandWord lawful known).bind fun name word => .pure (lawful.function _ ?_)
    have body := statement_withRedirects lawful statement elements
    exact (keywords.append (bracketed.cons word.1)).append (.single body)
  · exact yields_unexpected

omit lawful in
/-- Statements between two reserved words or brackets. -/
theorem yields_between {β : Type} {Q : β → Prop} {opening closing : Parser Tree} (closed : Bool)
    {finish : Tree → Tree → Tree → β} (opened : Yields spec spec.statement opening)
    (closes : Yields spec spec.statement closing)
    (finished : ∀ first tree last, spec.Statements [first, tree, last] →
      Q (finish first tree last)) :
    Yields spec Q (do
      let first ← opening
      let tree ← body closed fuel
      let last ← closing
      return finish first tree last) := by
  refine opened.bind fun first front => (inside.body closed).bind fun tree statement => ?_
  refine closes.bind fun last back => .pure (finished first tree last ?_)
  exact .cons front (.cons statement (.single back))

theorem yields_compound : Yields spec spec.statement (compound (fuel + 1)) := by
  refine .current fun token _ => ?_
  split
  · exact yields_between inside false (yields_takeReserved lawful)
      (yields_expectOperator lawful _) fun _ _ _ => statement_bracketedBody lawful
  · exact yields_between inside false (yields_takeReserved lawful)
      (yields_expectReserved lawful _) fun _ _ _ => statement_bracketedBody lawful
  · refine (yields_takeReserved lawful).bind fun keyword reserved => ?_
    refine inside.conditional.bind fun parts statements => .pure ?_
    exact statement_clause lawful _ (statements.cons reserved)
  · exact inside.loop _
  · exact inside.loop _
  · exact inside.forLoop
  · exact (refuses_selection fuel).yields
  · exact (refuses_caseCommand fuel).yields
  · exact .after (yields_advance lawful) fun _ => yields_unexpected

theorem yields_conditional : Yields spec spec.Statements (conditional (fuel + 1)) := by
  refine (inside.body false).bind fun condition tested => ?_
  refine (yields_expectReserved lawful _).bind fun thenWord thens => ?_
  refine (inside.body false).bind fun branch chosen => .current fun token _ => ?_
  have front : spec.Statements [condition, thenWord, branch] :=
    .cons tested (.cons thens (.single chosen))
  split
  · refine (yields_takeReserved lawful).bind fun elifWord elifs => ?_
    refine inside.conditional.bind fun parts statements => .pure ?_
    exact front.append (statements.cons elifs)
  split
  · refine (yields_takeReserved lawful).bind fun elseWord elses => ?_
    refine (inside.body false).bind fun other otherwise => ?_
    refine (yields_expectReserved lawful _).bind fun fiWord closed => .pure ?_
    exact front.append (.cons elses (.cons otherwise (.single closed)))
  · refine (yields_expectReserved lawful _).bind fun fiWord closed => .pure ?_
    exact front.append (.single closed)

theorem yields_loop (kind : Clause) : Yields spec spec.statement (loop kind (fuel + 1)) := by
  refine (yields_takeReserved lawful).bind fun keyword reserved => ?_
  refine (inside.body false).bind fun condition tested => ?_
  refine (yields_expectReserved lawful _).bind fun doWord opened => ?_
  refine (inside.body false).bind fun tree statement => ?_
  refine (yields_expectReserved lawful _).bind fun doneWord closed => ?_
  refine .after yields_requireCompoundEnd fun _ => ?_
  split
  · refine .pure (statement_clause lawful _ ?_)
    exact .cons reserved (.cons tested (.cons opened (.cons statement (.single closed))))
  · exact .throw _

theorem yields_loopBody (closed : Bool) :
    Yields spec spec.Statements (loopBody closed (fuel + 1)) := by
  refine .current fun token _ => ?_
  split
  · exact yields_between inside closed (yields_takeReserved lawful)
      (yields_expectReserved lawful _) fun _ _ _ statements => statements
  · exact yields_between inside closed (yields_expectReserved lawful _)
      (yields_expectReserved lawful _) fun _ _ _ statements => statements

theorem yields_forLoop : Yields spec spec.statement (forLoop (fuel + 1)) := by
  refine (yields_takeReserved lawful).bind fun keyword reserved => .current fun name known => ?_
  split
  · exact yields_unexpected
  · refine .after (yields_advance lawful) fun _ => ?_
    refine (yields_loopHead lawful false fuel).bind fun head heads => ?_
    refine (inside.loopBody false).bind fun parts statements => ?_
    refine .after yields_requireCompoundEnd fun _ => ?_
    refine (yields_expandWord lawful known).bind fun name word => .pure ?_
    refine statement_clause lawful _ (.append ?_ statements)
    exact .cons reserved (heads.cons word.1)

end

section

variable {spec : TreeSpec} (lawful : spec.Lawful)

include lawful

/-- The grammar yields statements, whatever the fuel. -/
theorem yieldsStatements (fuel : Nat) : YieldsStatements spec fuel := by
  induction fuel with
  | zero => constructor <;> intros <;> exact .throw _
  | succ fuel inside =>
    exact {
      body := yields_body lawful inside
      bodyRest := yields_bodyRest lawful inside
      pipeline := yields_pipeline lawful inside
      stages := yields_stages lawful inside
      command := yields_command lawful inside
      functionBody := yields_functionBody lawful inside
      compound := yields_compound lawful inside
      conditional := yields_conditional lawful inside
      loop := yields_loop lawful inside
      loopBody := yields_loopBody lawful inside
      forLoop := yields_forLoop lawful inside }

/-! ## Statements -/

theorem yields_statementRest (separated : Bool) (fuel : Nat) (parts : List Tree)
    (statements : spec.Statements parts) :
    Yields spec spec.statement (statementRest separated fuel parts) := by
  induction fuel generalizing separated parts with
  | zero => exact .throw _
  | succ fuel ih =>
    have pipeline := (yieldsStatements lawful fuel).pipeline
    have whole : spec.statement (.ofStatements parts.reverse) :=
      statement_ofStatements lawful statements.reverse
    refine .current fun token _ => ?_
    split
    · refine (yields_takeOperator lawful).bind fun sign signed => ?_
      refine .after (yields_skipLineEnds lawful fuel) fun _ => ?_
      refine pipeline.bind fun next statement => ih _ _ ?_
      exact .cons statement (.cons signed statements)
    split
    · refine (yields_takeOperator lawful).bind fun sign signed => ?_
      have ended := statements.cons signed
      refine .current fun after _ => ?_
      split
      · refine .after (yields_gather lawful) fun _ => .after (yields_advance lawful) fun _ => ?_
        exact .pure (lawful.statements _ ended.reverse)
      · exact pipeline.bind fun next statement => ih _ _ (ended.cons statement)
    split
    · exact .after (yields_gather lawful) fun _ => .after (yields_advance lawful) fun _ =>
        .pure whole
    split
    · refine .after (yields_gather lawful) fun _ => .read fun setting _ => ?_
      split
      · exact .pure whole
      · exact yields_unexpected
    · exact yields_unexpected

theorem yields_statement (fuel : Nat) :
    Yields spec (fun tree? => ∀ tree ∈ tree?, spec.statement tree) (statement? fuel) := by
  refine .after (yields_skipLineEnds lawful fuel) fun _ => .current fun token _ => ?_
  split
  · exact .pure nofun
  · refine (yieldsStatements lawful fuel).pipeline.bind fun first statement => ?_
    refine (yields_statementRest lawful true fuel [first] (.single statement)).map ?_
    exact fun tree statement _ same => Option.some.inj same ▸ statement

end

end Parser

/-! ## Texts -/

namespace TreeSpec.Lawful

variable {spec : TreeSpec} (lawful : spec.Lawful)

include lawful

theorem gives_firstStatement {inner : StatementReader} (sound : spec.Reads inner)
    {text : List Char} (known : spec.text text) (offset : Nat) (closing : Bool) :
    Gives (fun reading? => ∀ reading ∈ reading?, spec.statement reading.tree)
      (firstStatement? inner text offset closing) := by
  have ended : spec.text (Lexer.ofText text).place.rest := by
    dsimp only [Lexer.ofText]
    split
    · exact known
    · exact lawful.passed (.ended text) known
  refine Gives.bind (Lexer.gives_read _ offset) fun (token, lexer) finds => ?_
  obtain ⟨first, after⟩ := lawful.found finds ended
  have holds : Parser.Holds spec ⟨lexer, token, []⟩ := ⟨first, after⟩
  refine Gives.bind (Parser.yields_statement lawful _ _ sound _ holds) ?_
  intro (tree?, state) statement
  refine .pure fun reading same => ?_
  obtain ⟨tree, found, rfl⟩ := Option.map_eq_some_iff.1 same
  exact statement.1 tree found

/-- Substitutions are read into statements, however deep they may nest. -/
theorem reads_nestedStatement (depth : Nat) : spec.Reads (nestedStatement depth) := by
  induction depth with
  | zero => exact fun _ _ _ _ => .throw _
  | succ depth ih =>
    intro text place closing known
    refine (lawful.gives_firstStatement ih known place closing).bind fun reading? statement => ?_
    cases reading? with
    | none => exact .throw _
    | some reading => exact .pure (statement reading rfl)

theorem gives_treesFrom (depth fuel : Nat) {text : List Char} (known : spec.text text)
    (offset : Nat) : Gives spec.Statements (treesFrom depth fuel text offset) := by
  induction fuel generalizing text offset with
  | zero => exact .pure .nil
  | succ fuel ih =>
    unfold treesFrom
    split
    · exact .pure .nil
    · have first :=
        lawful.gives_firstStatement (lawful.reads_nestedStatement depth) known offset false
      refine first.bind fun reading? statement => ?_
      cases reading? with
      | none => exact .pure .nil
      | some reading =>
        refine (ih (lawful.part (List.drop_suffix _ _).isInfix known) _).bind ?_
        exact fun trees statements => .pure (.cons (statement reading rfl) statements)

/-- Every statement of a text is as specified. -/
theorem of_readTrees {text : String} {trees : List Tree} (known : spec.text text.toList)
    (readable : readTrees text = .ok trees) : spec.Statements trees := by
  have given : Gives spec.Statements (readTrees text) := by
    refine (lawful.gives_treesFrom _ _ known _).bind fun trees statements => ?_
    split
    · exact .throw _
    · exact .pure statements
  exact given trees readable

end TreeSpec.Lawful

/-! ## Grammatical trees -/

/-- Any text is read into grammatical trees. -/
def grammatical : TreeSpec := ⟨fun _ => True, (·.isStatement), (·.isElement)⟩

theorem grammatical_lawful : grammatical.Lawful where
  part _ _ := trivial
  passed _ _ := trivial
  reserved _ _ := rfl
  operator _ _ := rfl
  pipe _ _ := rfl
  parameter _ _ := rfl
  tilde _ _ := rfl
  channel _ := rfl
  commandSubstitution _ _ _ _ _ statement := statement
  processSubstitution _ _ statement := statement
  word _ _ _ elements := ⟨areElements_iff.2 elements, areElements_iff.2 elements⟩
  assignment _ _ _ elements := areElements_iff.2 elements
  redirect _ _ _ _ element := element
  command _ _ elements := areElements_iff.2 elements
  pipeline _ _ := areStatements_iff
  statements _ _ statements := areStatements_iff.2 statements
  clause _ _ _ statements := areStatements_iff.2 statements
  function _ _ statements := areStatements_iff.2 statements
  compound _ _ _ :=
    Bool.and_eq_true_iff.trans (and_congr areStatements_iff areElements_iff)

/-- Every statement of a text is grammatical. -/
theorem isStatement_of_readTrees {text : String} {trees : List Tree}
    (readable : readTrees text = .ok trees) : ∀ tree ∈ trees, tree.isStatement :=
  grammatical_lawful.of_readTrees trivial readable

end ShellVet.Shell
