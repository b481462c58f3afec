import Mathlib.Data.List.Basic
import ShellVet.Proofs.Shell.Complete
import ShellVet.Shell.Overview

/-!
# Commands that read a pipe

A command is a later stage when a pipeline above it holds it, or holds what it stands in, behind
another stage, and no substitution stands between the two. The walk reports these commands as piped,
and besides them those in a negated pipeline: there the exclamation mark is a part of the pipeline
like its stages, and what comes after it counts as a later stage (`piped_iff_laterStage`,
`negated_command_piped`).
-/

namespace ShellVet.Shell

/-! ## Later stages -/

/-- Whether the tree is a substitution. The commands in it read no pipe from outside. -/
def Tree.isSubstitution : Tree → Bool
  | .commandSubstitution .. | .processSubstitution .. => true
  | _ => false

/-- Whether the tree is a reserved word or a bracket. -/
def Tree.isReserved : Tree → Bool
  | .reserved .. => true
  | _ => false

/-- Whether the tree is a pipeline that pipes into its part of the number: a stage comes before it.
Neither the signs between stages nor a reserved word before them are stages. -/
def Tree.pipesInto (tree : Tree) (index : Nat) : Bool :=
  match tree with
  | .pipeline _ parts => (parts.take index).any fun part => !part.isPipe && !part.isReserved
  | _ => false

/-- Whether the tree is a pipeline with a reserved word before its part of the number. The grammar
puts no other one there than the exclamation mark. -/
def Tree.negates (tree : Tree) (index : Nat) : Bool :=
  match tree with
  | .pipeline _ parts => (parts.take index).any (·.isReserved)
  | _ => false

/-- Whether what the path leads to reads the input of the tree: the path passes no substitution. -/
def Tree.sharesInput (tree : Tree) (path : List Nat) : Bool :=
  (tree.above path).all (!·.isSubstitution)

/-- The relation holds of a tree on the path, whose input is read at the end of the path, and of the
number of the child that the path goes on to. -/
def Tree.Within (relation : Tree → Nat → Bool) (tree : Tree) (path : List Nat) : Prop :=
  ∃ front index back passed, path = front ++ index :: back ∧ tree.at? front = some passed ∧
    relation passed index = true ∧ passed.sharesInput (index :: back) = true

/-- The path leads into a later stage of a pipeline. -/
def Tree.LaterStage (tree : Tree) (path : List Nat) : Prop :=
  tree.Within Tree.pipesInto path

/-- The path leads into a negated pipeline, behind the exclamation mark. -/
def Tree.Negated (tree : Tree) (path : List Nat) : Prop :=
  tree.Within Tree.negates path

section

variable {relation : Tree → Nat → Bool} {tree child : Tree} {index : Nat} {path : List Nat}

theorem Tree.sharesInput_cons (found : tree.children[index]? = some child) :
    tree.sharesInput (index :: path) = (!tree.isSubstitution && child.sharesInput path) := by
  rw [Tree.sharesInput, Tree.above, found, Option.map_some, Option.getD_some, List.all_cons,
    Tree.sharesInput]

theorem Tree.within_cons_iff (found : tree.children[index]? = some child) :
    tree.Within relation (index :: path) ↔ child.Within relation path ∨
      relation tree index = true ∧ tree.sharesInput (index :: path) = true := by
  constructor
  · rintro ⟨front, number, back, passed, same, leads, holds, shares⟩
    cases front with
    | nil =>
      obtain ⟨rfl, rfl⟩ := List.cons.inj same
      cases leads
      exact .inr ⟨holds, shares⟩
    | cons head front =>
      obtain ⟨rfl, rfl⟩ := List.cons.inj same
      rw [Tree.at?, found, Option.bind_some] at leads
      exact .inl ⟨front, number, back, passed, rfl, leads, holds, shares⟩
  · rintro (⟨front, number, back, passed, rfl, leads, holds, shares⟩ | ⟨holds, shares⟩)
    · refine ⟨index :: front, number, back, passed, rfl, ?_, holds, shares⟩
      rw [Tree.at?, found, Option.bind_some, leads]
    · exact ⟨[], index, path, tree, rfl, rfl, holds, shares⟩

theorem Tree.not_within_nil : ¬tree.Within relation [] := by
  rintro ⟨front, number, back, passed, same, -⟩
  cases front <;> cases same

end

/-! ## The flag on the way down -/

/-- Behind a stage or a reserved word, a part of a pipeline is handed on as a later stage. -/
theorem Tree.piped_enter (context : Context) (tree : Tree) (index : Nat) :
    (tree.enter context index).piped =
      (!tree.isSubstitution &&
        (context.piped || (tree.pipesInto index || tree.negates index))) := by
  cases tree with
  | pipeline span parts =>
    have split : (parts.take index).any (!·.isPipe) =
        ((parts.take index).any (fun part => !part.isPipe && !part.isReserved) ||
          (parts.take index).any (·.isReserved)) := by
      induction parts.take index with
      | nil => rfl
      | cons part rest ih =>
        rw [List.any_cons, List.any_cons, List.any_cons, ih]
        cases part <;> simp [Tree.isPipe, Tree.isReserved]
    rw [Tree.enter, Tree.pipesInto, Tree.negates, split]
    rfl
  | commandSubstitution | processSubstitution => rfl
  | _ => exact (Bool.or_false _).symm

/-- A path ends piped where a pipeline on it hands this on, and where it starts so and no
substitution intervenes. -/
theorem Tree.piped_contextAt_iff {tree : Tree} {path : List Nat} (leads : (tree.at? path).isSome)
    (context : Context) :
    (tree.contextAt context path).piped = true ↔
      (tree.LaterStage path ∨ tree.Negated path) ∨
        context.piped = true ∧ tree.sharesInput path = true := by
  induction path generalizing tree context with
  | nil =>
    have later : ¬tree.LaterStage [] := Tree.not_within_nil
    have negated : ¬tree.Negated [] := Tree.not_within_nil
    have shares : tree.sharesInput [] = true := rfl
    simp only [Tree.contextAt, later, negated, shares, or_self, false_or, and_true]
  | cons index path ih =>
    rw [Tree.at?] at leads
    cases found : tree.children[index]? with
    | none =>
      rw [found] at leads
      cases leads
    | some child =>
      rw [found] at leads
      have below := ih leads (tree.enter context index)
      rw [Tree.LaterStage, Tree.Negated] at below ⊢
      rw [Tree.contextAt, found, Option.map_some, Option.getD_some, below, Tree.piped_enter,
        Tree.within_cons_iff found, Tree.within_cons_iff found, Tree.sharesInput_cons found]
      simp only [Bool.and_eq_true, Bool.or_eq_true]
      grind

/-! ## Reports -/

/-- The invocation is piped where its path leads into a later stage or a negated pipeline. -/
theorem Tree.piped_of_commandAt? {tree : Tree} {path : List Nat} {invocation : Invocation}
    (invoked : tree.commandAt? ⟨false, false⟩ path = some invocation) :
    invocation.piped = true ↔ tree.LaterStage path ∨ tree.Negated path := by
  obtain ⟨reached, found, own⟩ := Option.bind_eq_some_iff.1 invoked
  cases reached with
  | command span parts =>
    obtain ⟨-, -, piped, -, -⟩ := invocation?_eq_some own
    rw [piped, Tree.piped_contextAt_iff (by rw [found]; rfl)]
    simp only [Bool.false_eq_true, false_and, or_false]
  | _ => cases own

/-- A statement has a piped command where some path to a command leads into a later stage or a
negated pipeline. -/
theorem Tree.exists_piped_iff {tree : Tree} (statement : tree.isStatement) :
    (∃ invocation ∈ tree.invocations false false, invocation.piped = true) ↔
      ∃ path, tree.InvokesAt path ∧ (tree.LaterStage path ∨ tree.Negated path) := by
  obtain ⟨paths, -, complete, reports⟩ :=
    Tree.exists_paths statement fun _ _ => Tree.piped_of_commandAt?
  constructor
  · rintro ⟨invocation, among, piped⟩
    obtain ⟨index, inside, rfl⟩ := List.getElem_of_mem among
    have listed := reports.length_eq ▸ inside
    have same := reports.get listed inside
    exact ⟨_, (complete _).1 (List.get_mem _ _), same.1 piped⟩
  · rintro ⟨path, invokes, piped⟩
    obtain ⟨index, inside, rfl⟩ := List.getElem_of_mem ((complete path).2 invokes)
    have listed := reports.length_eq ▸ inside
    have same := reports.get inside listed
    exact ⟨_, List.get_mem _ _, same.2 piped⟩

/-- A command line invokes what its statements do; a blank one, or one that cannot be read, invokes
nothing. -/
theorem mem_invocationsOf_iff {commandLine : String} {invocation : Invocation} :
    invocation ∈ invocationsOf commandLine ↔
      ∃ trees, Text.isBlankText commandLine.toList = false ∧ readTrees commandLine = .ok trees ∧
        ∃ tree ∈ trees, invocation ∈ tree.invocations false false := by
  unfold invocationsOf parse
  cases blank : Text.isBlankText commandLine.toList with
  | true => simp [throw, throwThe, MonadExceptOf.throw, bind, Except.bind]
  | false =>
    cases readable : readTrees commandLine with
    | error error => simp [bind, Except.bind]
    | ok trees => simp [bind, Except.bind, pure, Except.pure, invocationsIn_eq_flatMap]

/-- **Piped means behind a stage.** Every statement reports, in the order of the text, the commands
of the paths that lead to one. A command is piped exactly where its path leads into a later stage of
a pipeline, with no substitution after it, or likewise into a negated pipeline. So where nothing is
negated, a command line has a pipe exactly when it is read into statements some command of which
is in a later stage. -/
theorem piped_iff_laterStage (tree : Tree) (commandLine : String) :
    (tree.isStatement →
      ∃ paths : List (List Nat), paths.Pairwise (· < ·) ∧
        (∀ path, path ∈ paths ↔ tree.InvokesAt path) ∧
        List.Forall₂ (fun path invocation => tree.Reports path invocation ∧
          (invocation.piped = true ↔ tree.LaterStage path ∨ tree.Negated path))
          paths (tree.invocations false false)) ∧
    (hasPipe commandLine = true ↔
      ∃ trees, Text.isBlankText commandLine.toList = false ∧ readTrees commandLine = .ok trees ∧
        ∃ tree ∈ trees, ∃ path,
          tree.InvokesAt path ∧ (tree.LaterStage path ∨ tree.Negated path)) := by
  constructor
  · exact fun statement => Tree.exists_paths statement fun _ _ invoked =>
      ⟨Tree.reports_of_commandAt? invoked, Tree.piped_of_commandAt? invoked⟩
  · rw [hasPipe, List.any_eq_true]
    constructor
    · rintro ⟨invocation, among, piped⟩
      obtain ⟨trees, shown, readable, tree, member, reported⟩ := mem_invocationsOf_iff.1 among
      have statement := isStatement_of_readTrees readable tree member
      exact ⟨trees, shown, readable, tree, member,
        (Tree.exists_piped_iff statement).1 ⟨invocation, reported, piped⟩⟩
    · rintro ⟨trees, shown, readable, tree, member, found⟩
      have statement := isStatement_of_readTrees readable tree member
      obtain ⟨invocation, reported, piped⟩ := (Tree.exists_piped_iff statement).2 found
      exact ⟨invocation,
        mem_invocationsOf_iff.2 ⟨trees, shown, readable, tree, member, reported⟩, piped⟩

/-- The second stage is piped, and the command in its substitution is not. -/
theorem piped_iff_laterStage_substitution :
    let tree : Tree := .pipeline ⟨0, 10⟩
      [.command ⟨0, 1⟩ [.word ⟨0, 1⟩ "a" []], .pipe ⟨2, 3⟩ "|",
        .command ⟨4, 10⟩ [.word ⟨4, 5⟩ "b" [], .word ⟨6, 10⟩ "$(c)"
          [.commandSubstitution ⟨6, 10⟩ (.command ⟨8, 9⟩ [.word ⟨8, 9⟩ "c" []])]]]
    let found : List Invocation := [⟨"a", [], "a", false, false, false⟩,
      ⟨"b", ["$(c)"], "b $(c)", true, false, false⟩, ⟨"c", [], "c", false, true, false⟩]
    tree.isStatement ∧ tree.invocations false false = found ∧
      (∃ paths : List (List Nat), paths.Pairwise (· < ·) ∧
        (∀ path, path ∈ paths ↔ tree.InvokesAt path) ∧
        List.Forall₂ (fun path invocation => tree.Reports path invocation ∧
          (invocation.piped = true ↔ tree.LaterStage path ∨ tree.Negated path)) paths found) ∧
      hasPipe "a | b $(c)" = true ∧
      ∃ trees, Text.isBlankText "a | b $(c)".toList = false ∧ readTrees "a | b $(c)" = .ok trees ∧
        ∃ tree ∈ trees, ∃ path,
          tree.InvokesAt path ∧ (tree.LaterStage path ∨ tree.Negated path) := by
  intro tree found
  have walked : tree.invocations false false = found := by decide
  have pipe : hasPipe "a | b $(c)" = true := by decide +kernel
  obtain ⟨whole, read⟩ := piped_iff_laterStage tree "a | b $(c)"
  rw [walked] at whole
  exact ⟨rfl, walked, whole rfl, pipe, read.1 pipe⟩

theorem reads_negated :
    (match readTrees "! ls" with
      | .ok [.pipeline ⟨0, 4⟩
          [.reserved ⟨0, 1⟩ "!", .command ⟨2, 4⟩ [.word ⟨2, 4⟩ "ls" []]]] => true
      | _ => false) = true := by
  decide +kernel

/-- A negated command is reported as piped, though no stage comes before it. -/
theorem negated_command_piped :
    let tree : Tree := .pipeline ⟨0, 4⟩
      [.reserved ⟨0, 1⟩ "!", .command ⟨2, 4⟩ [.word ⟨2, 4⟩ "ls" []]]
    readTrees "! ls" = .ok [tree] ∧
      parse "! ls" = .ok [⟨"ls", [], "ls", true, false, false⟩] ∧ hasPipe "! ls" = true ∧
      ∀ path, tree.InvokesAt path → ¬tree.LaterStage path := by
  intro tree
  have readable : readTrees "! ls" = .ok [tree] := by
    have reads := reads_negated
    split at reads
    case h_1 read => exact read
    case h_2 => cases reads
  have parsed : parse "! ls" = .ok [⟨"ls", [], "ls", true, false, false⟩] := by
    rw [parse, readable]
    rfl
  have pipe : hasPipe "! ls" = true := by
    rw [hasPipe, invocationsOf, parsed]
    rfl
  refine ⟨readable, parsed, pipe, ?_⟩
  rintro path ⟨span, parts, name, arguments, leads, -, -⟩ later
  have listed : path ∈ [[], [0], [1], [1, 0]] :=
    (tree.mem_paths_iff path).2 (Option.isSome_of_eq_some leads)
  -- only the second part of the pipeline is a command, and no stage stands before it
  have second : path = [1] := by
    rcases List.mem_cons.1 listed with rfl | listed
    · cases (show some (Tree.pipeline _ _) = some (.command span parts) from leads)
    rcases List.mem_cons.1 listed with rfl | listed
    · cases leads
    rcases List.mem_cons.1 listed with rfl | listed
    · rfl
    · rw [List.mem_singleton.1 listed] at leads
      cases leads
  rw [second, Tree.LaterStage, Tree.within_cons_iff rfl] at later
  rcases later with below | ⟨behind, -⟩
  · exact Tree.not_within_nil below
  · cases behind

end ShellVet.Shell
