import ShellVet.Proofs.Shell.Complete
import ShellVet.Proofs.Shell.Fed

/-!
# Printed lines are parsed into one statement

Each function of the grammar takes the tokens of what it reads, up to the sign behind them: words
for `elements`, a command for `command`, the rest of a pipeline for `stages`, a line for
`statement?`. Of the trees only that is kept which the rest of the reading depends on: where they
stop, that no here-document is below them, and which commands they invoke.

Every call uses up one unit of fuel and every piece pays for one call, so the number of pieces
bounds the fuel.
-/

namespace ShellVet.Shell

open Plain

/-! ## Simple commands -/

/-- Where the last tree stops, and that no here-document is in any. -/
structure RunTo (trees : List Tree) (stop : Nat) : Prop where
  documents : ∀ tree ∈ trees, tree.lastDocument? = none
  stop : ∀ last, trees.getLast? = some last → last.span.stop = stop

section

variable {tree : Tree} {trees : List Tree} {stop : Nat}

theorem RunTo.nil : RunTo [] stop := by
  refine ⟨List.forall_mem_nil _, ?_⟩
  rintro _ ⟨⟩

theorem RunTo.cons (runTo : RunTo trees stop) (documents : tree.lastDocument? = none)
    (alone : trees = [] → tree.span.stop = stop) : RunTo (tree :: trees) stop := by
  refine ⟨List.forall_mem_cons.mpr ⟨documents, runTo.documents⟩, ?_⟩
  cases trees with
  | nil =>
    rintro _ ⟨⟩
    exact alone rfl
  | cons =>
    intro last found
    exact runTo.stop last (List.getLast?_cons_cons.symm.trans found)

theorem RunTo.lastDocumentOf? (runTo : RunTo trees stop) : lastDocumentOf? trees = none := by
  obtain ⟨documents, -⟩ := runTo
  induction trees with
  | nil => rfl
  | cons tree trees ih =>
    obtain ⟨first, others⟩ := List.forall_mem_cons.mp documents
    rw [Shell.lastDocumentOf?, ih others, first]
    rfl

theorem RunTo.ofParts (runTo : RunTo trees stop) (nonempty : trees ≠ []) :
    (Span.ofParts trees).stop = stop := by
  obtain ⟨last, found⟩ := Option.ne_none_iff_exists'.mp (mt List.getLast?_eq_none_iff.mp nonempty)
  rw [Span.ofParts, found]
  exact runTo.stop last found

end

/-- The trees are words without expansions: their texts, and where the last one stops. -/
structure AreWords (trees : List Tree) (texts : List String) (stop : Nat) : Prop where
  words : List.Forall₂ (fun tree text => ∃ span, tree = .word span text []) trees texts
  runTo : RunTo trees stop

section

variable {trees : List Tree} {texts : List String} {stop : Nat}

theorem AreWords.cons {span : Span} (words : AreWords trees texts stop)
    (alone : texts = [] → span.stop = stop) (text : String) :
    AreWords (.word span text [] :: trees) (text :: texts) stop := by
  refine ⟨.cons ⟨span, rfl⟩ words.words, words.runTo.cons rfl ?_⟩
  rintro rfl
  exact alone (List.forall₂_nil_left_iff.mp words.words)

/-- Words hold nothing but their texts. -/
theorem AreWords.plain (words : AreWords trees texts stop) :
    wordTexts trees = texts ∧ trees.any (·.isRedirect) = false ∧ substitutedIn trees = [] := by
  obtain ⟨words, -⟩ := words
  induction words with
  | nil => exact ⟨rfl, rfl, rfl⟩
  | cons word words ih =>
    obtain ⟨span, rfl⟩ := word
    obtain ⟨texts, redirects, substituted⟩ := ih
    refine ⟨?_, ?_, ?_⟩
    · rw [← texts]
      rfl
    · rw [List.any_cons, redirects]
      rfl
    · rw [substitutedIn, substituted]
      rfl

end

/-- The tree stops at the place, holds no here-document, and invokes the commands, which depend on
whether it is a later stage of a pipeline. -/
structure Tree.Amounts (tree : Tree) (stop : Nat) (found : Bool → List Invocation) : Prop where
  stop : tree.span.stop = stop
  documents : tree.lastDocument? = none
  notPipe : tree.isPipe = false
  invocations : ∀ piped, tree.invocations piped false = found piped

/-- Words that are the name and the arguments of a command amount to it. -/
theorem AreWords.command {trees : List Tree} {command : Command} {stop : Nat}
    (words : AreWords trees (String.ofList command.name.chars ::
      command.arguments.map fun argument => String.ofList argument.value) stop) :
    (Tree.command (.ofParts trees) trees).Amounts stop fun piped => [command.invocation piped] := by
  obtain ⟨texts, redirects, substituted⟩ := words.plain
  have nonempty : trees ≠ [] := by
    rintro rfl
    cases texts
  have named : (String.ofList command.name.chars).isEmpty = false := by
    simpa using command.name.nonempty
  refine ⟨words.runTo.ofParts nonempty, words.runTo.lastDocumentOf?, rfl, fun piped => ?_⟩
  rw [Tree.invocations, substituted, List.append_nil, invocation?, texts]
  dsimp only
  rw [named, if_neg (by decide), redirects]
  rfl

namespace Parser

variable {setting : Setting} {token next : Token} {rest : List Token}

/-- The first token of pieces in front of another one. -/
theorem exists_layOut_append (piece : Piece) (kind : next.kind = piece.kind) (place : Nat)
    (pieces : List Piece) (rest : List Token) :
    ∃ first later, layOut place pieces ++ next :: rest = first :: later ∧
      first.kind = (pieces.head?.getD piece).kind := by
  cases pieces with
  | nil => exact ⟨_, _, rfl, kind⟩
  | cons first pieces => exact ⟨_, _, rfl, rfl⟩

theorem takes_elements {mark : Sign} (kind : next.kind = mark.kind) (arguments : List Argument)
    {fuel place : Nat} (enough : arguments.length < fuel) :
    Takes setting (elements fuel) (layOut place (argumentPieces arguments) ++ next :: rest)
      (next :: rest) fun trees =>
        AreWords trees (arguments.map fun argument => String.ofList argument.value)
          (setting.offset + (place + width (argumentPieces arguments))) := by
  obtain ⟨fuel, rfl⟩ : ∃ more, fuel = more + 1 := ⟨fuel - 1, by omega⟩
  induction arguments generalizing fuel place with
  | nil =>
    have ended : next.extendsCommand = false := by
      cases mark <;>
        simp [Token.extendsCommand, Token.startsRedirect, Operator.redirects, kind, Sign.kind]
    refine .current ?_
    rw [ended, if_neg (by decide)]
    exact .pure ⟨.nil, .nil⟩
  | cons argument arguments ih =>
    obtain ⟨fuel, rfl⟩ : ∃ more, fuel = more + 1 := ⟨fuel - 1, by simp at enough; omega⟩
    let piece : Piece := .word true argument
    have later : Takes setting (elements (fuel + 1))
      (layOut (place + piece.source.length) (argumentPieces arguments) ++ next :: rest)
      (next :: rest) _ := ih fuel (by simpa using enough)
    have whole : layOut place (argumentPieces (argument :: arguments)) ++ next :: rest =
      piece.token place ::
        (layOut (place + piece.source.length) (argumentPieces arguments) ++ next :: rest) := rfl
    have stop : place + width (argumentPieces (argument :: arguments)) =
        place + piece.source.length + width (argumentPieces arguments) := by
      rw [argumentPieces, List.map_cons, width_cons, Nat.add_assoc]
      rfl
    obtain ⟨second, more, split, secondKind⟩ :=
      exists_layOut_append (.sign mark) kind (place + piece.source.length)
        (argumentPieces arguments) rest
    rw [whole, stop, split]
    rw [split] at later
    have element : Takes setting element (piece.token place :: second :: more) (second :: more)
        fun tree => tree = .word ⟨setting.offset + (piece.token place).start,
          setting.offset + (piece.token place).stop⟩ (String.ofList argument.value) [] := by
      refine .current (.advance ?_)
      refine (takes_requireContinuation secondKind).bind fun _ _ => ?_
      exact takes_expandWord rfl
    refine .current ?_
    have extends' : (piece.token place).extendsCommand = true := rfl
    rw [extends', if_pos rfl]
    refine element.bind ?_
    rintro _ rfl
    refine later.bind fun trees words => .pure (words.cons ?_ _)
    intro alone
    rw [List.map_eq_nil_iff.mp alone]
    rfl

theorem takes_command {mark : Sign} (kind : next.kind = mark.kind) (spaced : Bool)
    (command : Command) {fuel place : Nat} (enough : (command.pieces spaced).length < fuel) :
    Takes setting (Parser.command fuel) (layOut place (command.pieces spaced) ++ next :: rest)
      (next :: rest) fun tree =>
        tree.Amounts (setting.offset + (place + width (command.pieces spaced)))
          fun piped => [command.invocation piped] := by
  obtain ⟨fuel, rfl⟩ : ∃ more, fuel = more + 1 := ⟨fuel - 1, by omega⟩
  let name : Piece := .word spaced (.bare command.name)
  have arguments : Takes setting (elements fuel)
    (layOut (place + name.source.length) (argumentPieces command.arguments) ++ next :: rest)
    (next :: rest) _ := takes_elements kind command.arguments (by
      rw [Command.pieces, List.length_cons, argumentPieces, List.length_map] at enough
      omega)
  have stop : place + width (command.pieces spaced) =
      place + name.source.length + width (argumentPieces command.arguments) := by
    rw [Command.pieces, width_cons, Nat.add_assoc]
  obtain ⟨second, more, split, secondKind⟩ :=
    exists_layOut_append (.sign mark) kind (place + name.source.length)
      (argumentPieces command.arguments) rest
  have whole : layOut place (command.pieces spaced) ++ next :: rest = name.token place ::
    (layOut (place + name.source.length) (argumentPieces command.arguments) ++ next :: rest) := rfl
  have noFunction : second.isOperator .leftParen = false := by
    refine decide_eq_false ?_
    rw [secondKind]
    cases command.arguments with
    | nil => cases mark <;> decide
    | cons =>
      change TokenKind.word ≠ .operator .leftParen
      decide
  rw [whole, stop, split]
  rw [split] at arguments
  unfold Parser.command
  refine .current ?_
  have isWord : (name.token place).kind = .word := rfl
  rw [if_pos isWord]
  refine .advance (.current ?_)
  rw [noFunction, if_neg (by decide)]
  refine (takes_requireContinuation secondKind).bind fun _ _ => ?_
  have expanded : (name.token place).text = (Argument.bare command.name).text := rfl
  refine (takes_expandWord expanded).bind ?_
  rintro _ rfl
  refine arguments.bind fun trees words => .pure ?_
  refine (words.cons ?_ _).command
  intro alone
  rw [List.map_eq_nil_iff.mp alone]
  rfl

/-- The token behind a stage of a pipeline is that of a sign. -/
theorem exists_stages_append {mark : Sign} (kind : next.kind = mark.kind) (place : Nat)
    (commands : List Command) (rest : List Token) :
    ∃ (first : Token) (later : List Token) (sign : Sign),
      layOut place (stagePieces commands) ++ next :: rest = first :: later ∧
        first.kind = sign.kind := by
  cases commands with
  | nil => exact ⟨_, _, mark, rfl, kind⟩
  | cons => exact ⟨_, _, .bar, rfl, rfl⟩

theorem takes_stages {mark : Sign} (kind : next.kind = mark.kind) (notBar : mark ≠ .bar)
    (commands : List Command) {fuel place : Nat} (enough : (stagePieces commands).length < fuel) :
    Takes setting (stages fuel) (layOut place (stagePieces commands) ++ next :: rest)
      (next :: rest) fun trees =>
        RunTo trees (setting.offset + (place + width (stagePieces commands))) ∧
          ∀ piped, stageInvocations piped false false trees =
            commands.map (·.invocation true) := by
  obtain ⟨fuel, rfl⟩ : ∃ more, fuel = more + 1 := ⟨fuel - 1, by omega⟩
  induction commands generalizing fuel place with
  | nil =>
    have noStage : (next.isOperator .bar || next.isOperator .barAnd) = false := by
      cases mark with
      | bar => exact absurd rfl notBar
      | _ => simp [Token.isOperator, kind, Sign.kind]
    unfold stages
    refine .current ?_
    rw [noStage, if_neg (by decide)]
    exact .pure ⟨.nil, fun _ => rfl⟩
  | cons command commands ih =>
    let bar : Piece := .sign .bar
    let start := place + bar.source.length
    let between := start + width (command.pieces true)
    have pieces : stagePieces (command :: commands) =
      bar :: (command.pieces true ++ stagePieces commands) := rfl
    have whole : layOut place (stagePieces (command :: commands)) ++ next :: rest =
        bar.token place :: (layOut start (command.pieces true) ++
          (layOut between (stagePieces commands) ++ next :: rest)) := by
      rw [pieces, layOut, layOut_append, List.cons_append, List.append_assoc]
    have stop : place + width (stagePieces (command :: commands)) =
        between + width (stagePieces commands) := by
      rw [pieces, width_cons, width_append, ← Nat.add_assoc, ← Nat.add_assoc]
    rw [pieces, List.length_cons, List.length_append] at enough
    obtain ⟨fuel, rfl⟩ : ∃ more, fuel = more + 1 := ⟨fuel - 1, by omega⟩
    have later : Takes setting (stages (fuel + 1))
      (layOut between (stagePieces commands) ++ next :: rest) (next :: rest) _ :=
      ih fuel (by omega)
    obtain ⟨second, more, sign, split, secondKind⟩ :=
      exists_stages_append kind between commands rest
    rw [whole, stop, split]
    rw [split] at later
    have stage : Takes setting (Parser.command (fuel + 1))
      (layOut start (command.pieces true) ++ second :: more) (second :: more) _ :=
      takes_command secondKind true command (by omega)
    unfold stages
    refine .current ?_
    have notLineEnd : ((Piece.word true (.bare command.name)).token start).kind ≠ .lineEnd := by
      change TokenKind.word ≠ .lineEnd
      decide
    have isBar : ((bar.token place).isOperator .bar || (bar.token place).isOperator .barAnd) =
      true := rfl
    rw [isBar, if_pos rfl]
    refine .advance (.read ?_)
    refine (takes_skipLineEnds (fuel + 1) notLineEnd).bind fun _ _ => ?_
    refine stage.bind fun tree amounts => later.bind fun trees others => .pure ?_
    obtain ⟨runTo, invocations⟩ := others
    refine ⟨(runTo.cons amounts.documents ?_).cons rfl ?_, fun piped => ?_⟩
    · rintro rfl
      have none : commands = [] := List.map_eq_nil_iff.mp (invocations false).symm
      rw [amounts.stop, none]
      rfl
    · exact fun empty => absurd empty (List.cons_ne_nil _ _)
    · change stageInvocations piped false false (tree :: trees) = _
      rw [stageInvocations, amounts.notPipe, if_neg (by decide), amounts.invocations, invocations,
        Bool.not_false, Bool.or_true]
      rfl

theorem takes_pipeline {mark : Sign} (kind : next.kind = mark.kind) (notBar : mark ≠ .bar)
    (spaced : Bool) (pipeline : Pipeline) {fuel place : Nat}
    (enough : (pipeline.pieces spaced).length + 1 < fuel) :
    Takes setting (Parser.pipeline fuel) (layOut place (pipeline.pieces spaced) ++ next :: rest)
      (next :: rest) fun tree =>
        tree.Amounts (setting.offset + (place + width (pipeline.pieces spaced))) fun piped =>
          pipeline.first.invocation piped :: pipeline.later.map (·.invocation true) := by
  obtain ⟨fuel, rfl⟩ : ∃ more, fuel = more + 1 := ⟨fuel - 1, by omega⟩
  let between := place + width (pipeline.first.pieces spaced)
  have whole : layOut place (pipeline.pieces spaced) ++ next :: rest =
      layOut place (pipeline.first.pieces spaced) ++
        (layOut between (stagePieces pipeline.later) ++ next :: rest) := by
    rw [Pipeline.pieces, layOut_append, List.append_assoc]
  have stop : place + width (pipeline.pieces spaced) =
      between + width (stagePieces pipeline.later) := by
    rw [Pipeline.pieces, width_append, ← Nat.add_assoc]
  rw [Pipeline.pieces, List.length_append] at enough
  have later : Takes setting (stages fuel)
    (layOut between (stagePieces pipeline.later) ++ next :: rest) (next :: rest) _ :=
    takes_stages kind notBar pipeline.later (by omega)
  obtain ⟨second, more, sign, split, secondKind⟩ :=
    exists_stages_append kind between pipeline.later rest
  rw [whole, stop, split]
  rw [split] at later
  have first : Takes setting (Parser.command fuel)
    (layOut place (pipeline.first.pieces spaced) ++ second :: more) (second :: more) _ :=
    takes_command secondKind spaced pipeline.first (by omega)
  let name : Piece := .word spaced (.bare pipeline.first.name)
  have start : layOut place (pipeline.first.pieces spaced) ++ second :: more =
    name.token place :: (layOut (place + name.source.length)
      (argumentPieces pipeline.first.arguments) ++ second :: more) := rfl
  have noBang : (name.token place).isReserved .bang = false := rfl
  have noTime : (name.token place).isReserved .timeWord = false := rfl
  rw [start] at first ⊢
  unfold Parser.pipeline
  refine .current ?_
  rw [noBang, if_neg (by decide), noTime, if_neg (by decide)]
  refine first.bind fun tree amounts => later.bind fun trees others => ?_
  obtain ⟨runTo, invocations⟩ := others
  cases trees with
  | nil =>
    have none : pipeline.later = [] := List.map_eq_nil_iff.mp (invocations false).symm
    refine .pure ?_
    rw [none]
    exact amounts
  | cons second trees =>
    have stages := runTo.cons amounts.documents fun empty => absurd empty (List.cons_ne_nil _ _)
    refine .pure ⟨stages.ofParts (List.cons_ne_nil _ _), stages.lastDocumentOf?, rfl, ?_⟩
    intro piped
    rw [Tree.invocations, stageInvocations, amounts.notPipe, if_neg (by decide),
      amounts.invocations, invocations, Bool.not_true, Bool.or_false]
    rfl

/-! ## Statements -/

/-- Statements read so far, which are kept in reverse: where they stop and what they invoke. -/
structure ReadSoFar (parts : List Tree) (stop : Nat) (found : List Invocation) : Prop where
  runTo : RunTo parts.reverse stop
  nonempty : parts ≠ []
  invocations : invocationsIn false false parts.reverse = found

section

variable {tree : Tree} {parts : List Tree} {stop stop' : Nat} {found : List Invocation}
  {more : Bool → List Invocation}

theorem ReadSoFar.single (amounts : tree.Amounts stop more) :
    ReadSoFar [tree] stop (more false) := by
  refine ⟨RunTo.nil.cons amounts.documents fun _ => amounts.stop, List.cons_ne_nil _ _, ?_⟩
  rw [List.reverse_singleton, invocationsIn, invocationsIn, List.append_nil, amounts.invocations]

theorem ReadSoFar.push (read : ReadSoFar parts stop found) (amounts : tree.Amounts stop' more)
    (span : Span) (text : String) :
    ReadSoFar (tree :: .operator span text :: parts) stop' (found ++ more false) := by
  have order : (tree :: .operator span text :: parts).reverse =
      parts.reverse ++ [.operator span text, tree] := by
    rw [List.reverse_cons, List.reverse_cons, List.append_assoc]
    rfl
  refine ⟨⟨?_, ?_⟩, List.cons_ne_nil _ _, ?_⟩
  · rw [order, List.forall_mem_append]
    refine ⟨read.runTo.documents, List.forall_mem_cons.mpr ⟨rfl, ?_⟩⟩
    exact List.forall_mem_singleton.mpr amounts.documents
  · intro last found
    rw [List.getLast?_reverse, List.head?_cons] at found
    obtain rfl := Option.some.inj found
    exact amounts.stop
  · rw [order, invocationsIn_eq_flatMap, List.flatMap_append, ← invocationsIn_eq_flatMap,
      read.invocations, List.flatMap_cons, List.flatMap_singleton, amounts.invocations]
    rfl

/-- A single statement stands for itself, several for the list of them. -/
theorem ReadSoFar.ofStatements (read : ReadSoFar parts stop found) :
    (Tree.ofStatements parts.reverse).span.stop = stop ∧
      (Tree.ofStatements parts.reverse).lastDocument? = none ∧
      (Tree.ofStatements parts.reverse).invocations false false = found := by
  obtain ⟨runTo, nonempty, invocations⟩ := read
  unfold Tree.ofStatements
  split
  · rename_i tree alone
    rw [alone] at runTo invocations
    rw [invocationsIn, invocationsIn, List.append_nil] at invocations
    exact ⟨runTo.stop tree rfl, runTo.documents tree (List.mem_singleton_self _), invocations⟩
  · exact ⟨runTo.ofParts (List.reverse_ne_nil_iff.mpr nonempty), runTo.lastDocumentOf?, invocations⟩

end

/-- The token behind a pipeline is that of a sign between pipelines. -/
theorem exists_links_append (ended : token.kind = .lineEnd) (place : Nat)
    (links : List (Joint × Pipeline)) (rest : List Token) :
    ∃ (first : Token) (later : List Token) (sign : Sign),
      layOut place (linkPieces links) ++ token :: rest = first :: later ∧
        first.kind = sign.kind ∧ sign ≠ .bar := by
  cases links with
  | nil => exact ⟨_, _, .lineEnd, rfl, ended, by decide⟩
  | cons link =>
    refine ⟨_, _, link.1.sign, rfl, rfl, ?_⟩
    cases link.1 <;> decide

theorem takes_statementRest (links : List (Joint × Pipeline))
    (oneLine : ∀ link ∈ links, link.1 ≠ .lineEnd) (ended : token.kind = .lineEnd) {separated : Bool}
    {parts : List Tree} {fuel place : Nat} {found : List Invocation}
    (read : ReadSoFar parts (setting.offset + place) found)
    (enough : (linkPieces links).length + 1 < fuel) :
    Takes setting (statementRest separated fuel parts)
      (layOut place (linkPieces links) ++ token :: next :: rest) (next :: rest) fun tree =>
        tree.span.stop = setting.offset + (place + width (linkPieces links)) ∧
          tree.lastDocument? = none ∧
          tree.invocations false false = found ++ links.flatMap (·.2.invocations) := by
  obtain ⟨fuel, rfl⟩ : ∃ more, fuel = more + 1 := ⟨fuel - 1, by omega⟩
  induction links generalizing fuel place parts found separated with
  | nil =>
    unfold statementRest
    refine .current ?_
    have noSign : ∀ sign, token.isOperator sign = false := by
      intro sign
      refine decide_eq_false ?_
      rw [ended]
      exact TokenKind.noConfusion
    simp only [noSign, Bool.or_self, Bool.false_eq_true, if_false]
    rw [if_pos ended]
    refine takes_gather.bind fun _ _ => .advance (.pure ?_)
    obtain ⟨stop, documents, invocations⟩ := read.ofStatements
    exact ⟨stop, documents, by rw [invocations, List.flatMap_nil, List.append_nil]⟩
  | cons link links ih =>
    obtain ⟨joint, pipeline⟩ := link
    obtain ⟨joined, othersOnLine⟩ := List.forall_mem_cons.mp oneLine
    let sign : Piece := .sign joint.sign
    let start := place + sign.source.length
    let pieces := pipeline.pieces (joint ≠ .lineEnd)
    let between := start + width pieces
    have linked : linkPieces ((joint, pipeline) :: links) =
      sign :: (pieces ++ linkPieces links) := rfl
    have whole : layOut place (linkPieces ((joint, pipeline) :: links)) ++ token :: next :: rest =
        sign.token place :: (layOut start pieces ++
          (layOut between (linkPieces links) ++ token :: next :: rest)) := by
      rw [linked, layOut, layOut_append, List.cons_append, List.append_assoc]
    have stop : place + width (linkPieces ((joint, pipeline) :: links)) =
        between + width (linkPieces links) := by
      rw [linked, width_cons, width_append, ← Nat.add_assoc, ← Nat.add_assoc]
    rw [linked, List.length_cons, List.length_append] at enough
    obtain ⟨fuel, rfl⟩ : ∃ more, fuel = more + 1 := ⟨fuel - 1, by omega⟩
    obtain ⟨second, more, mark, split, secondKind, notBar⟩ :=
      exists_links_append ended between links (next :: rest)
    have goOn : ∀ separated span text, Takes setting
        (Parser.pipeline (fuel + 1) >>= fun tree =>
          statementRest separated (fuel + 1) (tree :: .operator span text :: parts))
        (layOut start pieces ++ second :: more) (next :: rest) fun tree =>
          tree.span.stop = setting.offset + (between + width (linkPieces links)) ∧
            tree.lastDocument? = none ∧
            tree.invocations false false =
              found ++ (pipeline.invocations ++ links.flatMap (·.2.invocations)) := by
      intro separated span text
      have next : Takes setting (Parser.pipeline (fuel + 1)) (layOut start pieces ++ second :: more)
        (second :: more) _ := takes_pipeline secondKind notBar _ pipeline (by
          change pieces.length + 1 < _
          omega)
      refine next.bind fun tree amounts => ?_
      rw [← split, ← List.append_assoc]
      exact ih othersOnLine (read.push amounts span text) fuel (by omega)
    obtain ⟨name, words, startsWithName, isWord⟩ : ∃ name words,
      layOut start pieces ++ second :: more = name :: words ∧ name.kind = .word :=
      ⟨_, _, rfl, rfl⟩
    have notLineEnd : name.kind ≠ .lineEnd := by
      rw [isWord]
      decide
    rw [whole, stop, split, List.flatMap_cons, startsWithName]
    rw [startsWithName] at goOn
    unfold statementRest
    refine .current ?_
    cases joint with
    | lineEnd => exact absurd rfl joined
    | andIf | orIf =>
      have chains : ((sign.token place).isOperator .andIf || (sign.token place).isOperator .orIf) =
        true := rfl
      rw [if_pos chains]
      refine takes_takeOperator.bind ?_
      rintro _ ⟨span, text, rfl⟩
      refine (takes_skipLineEnds _ notLineEnd).bind fun _ _ => ?_
      exact goOn false span text
    | semicolon =>
      have noChain : ((sign.token place).isOperator .andIf ||
        (sign.token place).isOperator .orIf) = false := rfl
      have separates : ((sign.token place).isOperator .ampersand ||
        (sign.token place).isOperator .semicolon) = true := rfl
      rw [noChain, if_neg (by decide), if_pos separates]
      refine takes_takeOperator.bind ?_
      rintro _ ⟨span, text, rfl⟩
      refine .current ?_
      rw [if_neg notLineEnd]
      exact goOn _ span text

/-- A script on one line is one statement. -/
theorem takes_statement? (line : Script) (oneLine : ∀ link ∈ line.later, link.1 ≠ .lineEnd)
    (ended : token.kind = .lineEnd) {fuel : Nat} (enough : line.pieces.length + 1 < fuel) :
    Takes setting (statement? fuel) (layOut 0 line.pieces ++ token :: next :: rest) (next :: rest)
      fun tree? => ∃ tree, tree? = some tree ∧
        tree.span.stop = setting.offset + width line.pieces ∧ tree.lastDocument? = none ∧
        tree.invocations false false = line.invocations := by
  let between := width (line.first.pieces false)
  have whole : layOut 0 line.pieces ++ token :: next :: rest = layOut 0 (line.first.pieces false) ++
      (layOut between (linkPieces line.later) ++ token :: next :: rest) := by
    rw [Script.pieces, layOut_append, List.append_assoc, Nat.zero_add]
  rw [Script.pieces, List.length_append] at enough
  obtain ⟨second, more, mark, split, secondKind, notBar⟩ :=
    exists_links_append ended between line.later (next :: rest)
  have first : Takes setting (Parser.pipeline fuel)
    (layOut 0 (line.first.pieces false) ++ second :: more) (second :: more) _ :=
    takes_pipeline secondKind notBar false line.first (by omega)
  obtain ⟨name, words, startsWithName, isWord⟩ : ∃ name words,
    layOut 0 (line.first.pieces false) ++ second :: more = name :: words ∧ name.kind = .word :=
    ⟨_, _, rfl, rfl⟩
  have notLineEnd : name.kind ≠ .lineEnd := by
    rw [isWord]
    decide
  have notEnd : name.kind ≠ .endOfText := by
    rw [isWord]
    decide
  rw [whole, split, startsWithName]
  rw [startsWithName] at first
  unfold statement?
  refine (takes_skipLineEnds fuel notLineEnd).bind fun _ _ => .current ?_
  rw [if_neg notEnd]
  refine first.bind fun tree amounts => ?_
  rw [← split]
  have read : ReadSoFar [tree] (setting.offset + between) line.first.invocations := by
    rw [← Nat.zero_add between]
    exact .single amounts
  have others : Takes setting (statementRest true fuel [tree])
    (layOut between (linkPieces line.later) ++ token :: next :: rest) (next :: rest) _ :=
    takes_statementRest line.later oneLine ended read (by omega)
  refine others.map fun tree read => ?_
  obtain ⟨stop, documents, invocations⟩ := read
  refine ⟨tree, rfl, ?_, documents, invocations⟩
  rw [stop, Script.pieces, width_append]

end Parser

end ShellVet.Shell
