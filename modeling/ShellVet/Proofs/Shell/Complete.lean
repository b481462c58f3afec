import ShellVet.Proofs.Shell.Parsed
import ShellVet.Proofs.Shell.Walk
import Mathlib.Data.List.Forall2

/-!
# No command escapes

The walk over a grammatical tree reports every command that the tree invokes, once and in the order
of the text, and it reports nothing else. The trees of a command line are grammatical, so no part of
what the parser read hides a command.
-/

namespace ShellVet.Shell

/-- The path leads to a simple command whose first word is not empty. -/
def Tree.InvokesAt (tree : Tree) (path : List Nat) : Prop :=
  ∃ span parts name arguments, tree.at? path = some (.command span parts) ∧
    wordTexts parts = name :: arguments ∧ name ≠ ""

/-- The invocation is that of the simple command a path leads to: it holds the words of that
command, it is redirected when a part of that command redirects, and nested when a tree above that
command is a substitution or a subshell. -/
def Tree.Reports (tree : Tree) (path : List Nat) (invocation : Invocation) : Prop :=
  ∃ span parts, tree.at? path = some (.command span parts) ∧
    wordTexts parts = invocation.name :: invocation.arguments ∧
    invocation.text = String.ofList
      (Text.trim (" ".intercalate (invocation.name :: invocation.arguments)).toList) ∧
    (invocation.redirected ↔ ∃ part ∈ parts, part.isRedirect) ∧
    (invocation.nested ↔ ∃ above ∈ tree.above path, above.nests)

theorem invocation?_isSome_iff {parts : List Tree} {piped nested : Bool} :
    (invocation? parts piped nested).isSome ↔
      ∃ name arguments, wordTexts parts = name :: arguments ∧ name ≠ "" := by
  unfold invocation?
  cases wordTexts parts with
  | nil => simp
  | cons name arguments =>
    by_cases blank : name = ""
    · simp [blank]
    · simp [blank]

theorem invocation?_eq_some {parts : List Tree} {piped nested : Bool} {invocation : Invocation}
    (invoked : invocation? parts piped nested = some invocation) :
    wordTexts parts = invocation.name :: invocation.arguments ∧
      invocation.text = String.ofList
        (Text.trim (" ".intercalate (invocation.name :: invocation.arguments)).toList) ∧
      invocation.piped = piped ∧ invocation.nested = nested ∧
      invocation.redirected = parts.any (·.isRedirect) := by
  unfold invocation? at invoked
  split at invoked
  · cases invoked
  · next name arguments words =>
    split at invoked
    · cases invoked
    · cases invoked
      exact ⟨words, rfl, rfl, rfl, rfl⟩

/-- A path has a command exactly when it leads to a command with a first word. -/
theorem Tree.commandAt?_isSome_iff (context : Context) (tree : Tree) (path : List Nat) :
    (tree.commandAt? context path).isSome ↔ tree.InvokesAt path := by
  unfold Tree.commandAt? Tree.InvokesAt
  cases tree.at? path with
  | none => simp
  | some reached =>
    rw [Option.bind_some]
    cases reached with
    | command span parts =>
      rw [Tree.own?, invocation?_isSome_iff]
      constructor
      · rintro ⟨name, arguments, words, filled⟩
        exact ⟨span, parts, name, arguments, rfl, words, filled⟩
      · rintro ⟨_, _, name, arguments, same, words, filled⟩
        cases same
        exact ⟨name, arguments, words, filled⟩
    | _ => simp [Tree.own?]

theorem Tree.reports_of_commandAt? {tree : Tree} {path : List Nat} {invocation : Invocation}
    (invoked : tree.commandAt? ⟨false, false⟩ path = some invocation) :
    tree.Reports path invocation := by
  obtain ⟨reached, found, own⟩ := Option.bind_eq_some_iff.1 invoked
  cases reached with
  | command span parts =>
    obtain ⟨words, text, -, nested, redirected⟩ := invocation?_eq_some own
    refine ⟨span, parts, found, words, text, ?_, ?_⟩
    · rw [redirected, List.any_eq_true]
    · rw [nested, Tree.nested_contextAt (by rw [found]; rfl), Bool.false_or, List.any_eq_true]
  | _ => cases own

theorem forall₂_filterMap {α β : Type} {f : α → Option β} {R : α → β → Prop}
    (related : ∀ a b, f a = some b → R a b) (l : List α) :
    List.Forall₂ R (l.filter fun a => (f a).isSome) (l.filterMap f) := by
  induction l with
  | nil => exact .nil
  | cons a rest ih =>
    cases image : f a with
    | none => simpa [image] using ih
    | some b => simpa [image] using ⟨related a b image, ih⟩

/-- The walk over a statement goes, in the order of the text, through the paths that lead to a
command, and what relates such a path to its command relates it to what is reported there. -/
theorem Tree.exists_paths {R : List Nat → Invocation → Prop} {tree : Tree}
    (statement : tree.isStatement)
    (related : ∀ path invocation,
      tree.commandAt? ⟨false, false⟩ path = some invocation → R path invocation) :
    ∃ paths : List (List Nat), paths.Pairwise (· < ·) ∧
      (∀ path, path ∈ paths ↔ tree.InvokesAt path) ∧
      List.Forall₂ R paths (tree.invocations false false) := by
  let reached := tree.paths.filter fun path => (tree.commandAt? ⟨false, false⟩ path).isSome
  refine ⟨reached, tree.paths_pairwise.filter _, fun path => ?_, ?_⟩
  · rw [List.mem_filter, Tree.mem_paths_iff, Tree.commandAt?_isSome_iff]
    refine and_iff_right_of_imp fun invokes => ?_
    obtain ⟨_, _, _, _, found, -⟩ := invokes
    exact Option.isSome_of_eq_some found
  · rw [tree.walked.invocations_eq statement ⟨false, false⟩]
    exact forall₂_filterMap related tree.paths

theorem invocationsIn_eq_flatMap (trees : List Tree) :
    invocationsIn false false trees = trees.flatMap (·.invocations false false) := by
  induction trees with
  | nil => rfl
  | cons tree rest ih => rw [invocationsIn, List.flatMap_cons, ih]

theorem readTrees_of_parse {commandLine : String} {invocations : List Invocation}
    (parsed : parse commandLine = .ok invocations) :
    ∃ trees, readTrees commandLine = .ok trees ∧ invocations = invocationsIn false false trees := by
  unfold parse at parsed
  split at parsed
  · cases parsed
  · cases readable : readTrees commandLine with
    | error error =>
      rw [readable] at parsed
      cases parsed
    | ok trees =>
      rw [readable] at parsed
      cases parsed
      exact ⟨trees, rfl, rfl⟩

/-- **No command escapes.** A command line that is read gives trees that are all grammatical, and
its commands are those that the walk finds in them. In a grammatical tree the walk reports, in the
order of the text, the command of every path that leads to one, and no other. -/
theorem invocations_complete :
    (∀ commandLine invocations, parse commandLine = .ok invocations →
      ∃ trees, readTrees commandLine = .ok trees ∧ (∀ tree ∈ trees, tree.isStatement) ∧
        invocations = trees.flatMap (·.invocations false false)) ∧
    ∀ tree : Tree, tree.isStatement →
      ∃ paths : List (List Nat), paths.Pairwise (· < ·) ∧
        (∀ path, path ∈ paths ↔ tree.InvokesAt path) ∧
        List.Forall₂ tree.Reports paths (tree.invocations false false) := by
  refine ⟨fun commandLine invocations parsed => ?_, fun tree statement => ?_⟩
  · obtain ⟨trees, readable, rfl⟩ := readTrees_of_parse parsed
    exact ⟨trees, readable, isStatement_of_readTrees readable, invocationsIn_eq_flatMap trees⟩
  · exact Tree.exists_paths statement fun _ _ => Tree.reports_of_commandAt?

/-- The command in a substitution is found below the word that holds it. -/
theorem invocations_complete_substitution :
    let tree : Tree := .command ⟨0, 6⟩ [.word ⟨0, 1⟩ "a" [], .word ⟨2, 6⟩ "$(b)"
      [.commandSubstitution ⟨2, 6⟩ (.command ⟨4, 5⟩ [.word ⟨4, 5⟩ "b" []])]]
    let found : List Invocation := [⟨"a", ["$(b)"], "a $(b)", false, false, false⟩,
      ⟨"b", [], "b", false, true, false⟩]
    parse "a $(b)" = .ok found ∧
      (∃ trees, readTrees "a $(b)" = .ok trees ∧ (∀ tree ∈ trees, tree.isStatement) ∧
        found = trees.flatMap (·.invocations false false)) ∧
      tree.isStatement ∧ ∃ paths : List (List Nat), paths.Pairwise (· < ·) ∧
        (∀ path, path ∈ paths ↔ tree.InvokesAt path) ∧ List.Forall₂ tree.Reports paths found := by
  intro tree found
  have parsed : parse "a $(b)" = .ok found := by decide +kernel
  have walked : tree.invocations false false = found := by decide
  have whole := invocations_complete.2 tree rfl
  rw [walked] at whole
  exact ⟨parsed, invocations_complete.1 _ _ parsed, rfl, whole⟩

end ShellVet.Shell
