import ShellVet.Proofs.Shell.Grammatical
import ShellVet.Proofs.Shell.Paths

/-!
# The walk over a syntax tree

`Tree.commands` reads off every path of a tree the command that the path leads to, in the context
that the trees above it make. The two walks `Tree.invocations` and `Tree.substituted` pass over some
children and hand on the flags of the context in their own ways; on a grammatical tree they list the
same commands all the same (`Tree.walked`).
-/

namespace ShellVet.Shell

/-! ## Contexts -/

/-- What a tree takes from the trees above it. -/
structure Context where
  /-- A later stage of a pipeline. -/
  piped : Bool
  /-- Inside a substitution or a subshell. -/
  nested : Bool

/-- Whether the commands below the tree run in a shell of their own. -/
def Tree.nests : Tree → Bool
  | .commandSubstitution .. | .processSubstitution .. => true
  | .compound _ body _ => opensSubshell body
  | _ => false

/-- The context of a child of a tree. -/
def Tree.enter (context : Context) (tree : Tree) (index : Nat) : Context :=
  match tree with
  | .pipeline _ parts =>
    { context with piped := context.piped || (parts.take index).any (!·.isPipe) }
  | .compound _ body _ => { context with nested := context.nested || opensSubshell body }
  | .commandSubstitution .. | .processSubstitution .. => ⟨false, true⟩
  | _ => context

/-- The context of the tree a path leads to. -/
def Tree.contextAt (context : Context) (tree : Tree) : List Nat → Context
  | [] => context
  | index :: path =>
    (tree.children[index]?.map (·.contextAt (tree.enter context index) path)).getD context

/-- The command that the tree itself invokes. -/
def Tree.own? (context : Context) : Tree → Option Invocation
  | .command _ parts => invocation? parts context.piped context.nested
  | _ => none

/-- The command invoked where a path leads. -/
def Tree.commandAt? (context : Context) (tree : Tree) (path : List Nat) : Option Invocation :=
  (tree.at? path).bind (·.own? (tree.contextAt context path))

/-- The commands invoked along the paths of a tree. -/
def Tree.commands (context : Context) (tree : Tree) : List Invocation :=
  tree.paths.filterMap (tree.commandAt? context)

/-- The commands along the paths of trees that are numbered from a number on. -/
def commandsThrough (contextOf : Nat → Context) (index : Nat) : List Tree → List Invocation
  | [] => []
  | tree :: rest => tree.commands (contextOf index) ++ commandsThrough contextOf (index + 1) rest

theorem Tree.commandAt?_cons (context : Context) {tree child : Tree} {index : Nat}
    (found : tree.children[index]? = some child) (path : List Nat) :
    tree.commandAt? context (index :: path) =
      child.commandAt? (tree.enter context index) path := by
  simp only [Tree.commandAt?, Tree.at?, Tree.contextAt, found, Option.bind_some, Option.map_some,
    Option.getD_some]

theorem filterMap_pathsFrom (context : Context) {tree : Tree} (front back : List Tree)
    (split : tree.children = front ++ back) :
    (pathsFrom front.length back).filterMap (tree.commandAt? context) =
      commandsThrough (tree.enter context) front.length back := by
  -- the children in `front` are done, so its length is the number of the next child
  induction back generalizing front with
  | nil => rfl
  | cons child rest ih =>
    have found : tree.children[front.length]? = some child := by simp [split]
    have later := ih (front ++ [child]) (by rw [split, List.append_assoc, List.singleton_append])
    rw [List.length_append, List.length_singleton] at later
    rw [pathsFrom, commandsThrough, List.filterMap_append, List.filterMap_map, later, Tree.commands]
    congr 2
    exact funext (Tree.commandAt?_cons context found)

/-- A tree invokes its own command and then those of its children. -/
theorem Tree.commands_eq (context : Context) (tree : Tree) :
    tree.commands context =
      (tree.own? context).toList ++ commandsThrough (tree.enter context) 0 tree.children := by
  have children : (pathsFrom 0 tree.children).filterMap (tree.commandAt? context) =
      commandsThrough (tree.enter context) 0 tree.children := filterMap_pathsFrom context [] _ rfl
  have own : tree.commandAt? context [] = tree.own? context := rfl
  rw [Tree.commands, Tree.paths_eq, List.filterMap_cons, children, own]
  cases tree.own? context <;> rfl

/-- A path ends nested where it starts so, and where a tree above its end nests. -/
theorem Tree.nested_contextAt {tree : Tree} {path : List Nat} (leads : (tree.at? path).isSome)
    (context : Context) :
    (tree.contextAt context path).nested = (context.nested || (tree.above path).any (·.nests)) := by
  induction path generalizing tree context with
  | nil => exact (Bool.or_false _).symm
  | cons index path ih =>
    rw [Tree.at?] at leads
    rw [Tree.contextAt, Tree.above]
    cases found : tree.children[index]? with
    | none =>
      rw [found] at leads
      cases leads
    | some child =>
      rw [found] at leads
      have entered : (tree.enter context index).nested = (context.nested || tree.nests) := by
        cases tree with
        | commandSubstitution | processSubstitution => exact (Bool.or_true _).symm
        | compound => rfl
        | _ => exact (Bool.or_false _).symm
      have below := ih leads (tree.enter context index)
      rw [Option.map_some, Option.getD_some, Option.map_some, Option.getD_some, List.any_cons,
        below, entered, Bool.or_assoc]

/-! ## The walk follows the paths -/

/-- The walk lists the commands of the tree: as a statement its own and those below, as an element
those that the substitutions below run, whatever stands around. -/
structure Tree.Walked (tree : Tree) : Prop where
  invocations_eq : tree.isStatement → ∀ context : Context,
    tree.invocations context.piped context.nested = tree.commands context
  substituted_eq : tree.isElement → ∀ context, tree.substituted = tree.commands context

section

variable {trees : List Tree}

theorem invocationsIn_eq (statements : areStatements trees) (walked : ∀ tree ∈ trees, tree.Walked)
    (context : Context) (index : Nat) :
    invocationsIn context.piped context.nested trees =
      commandsThrough (fun _ => context) index trees := by
  induction trees generalizing index with
  | nil => rfl
  | cons tree rest ih =>
    obtain ⟨first, later⟩ := areStatements_cons.1 statements
    rw [invocationsIn, commandsThrough, (walked tree (.head _)).invocations_eq first,
      ih later fun t among => walked t (.tail _ among)]

theorem substitutedIn_eq (elements : areElements trees) (walked : ∀ tree ∈ trees, tree.Walked)
    (contextOf : Nat → Context) (index : Nat) :
    substitutedIn trees = commandsThrough contextOf index trees := by
  induction trees generalizing index with
  | nil => rfl
  | cons tree rest ih =>
    obtain ⟨first, later⟩ := areElements_cons.1 elements
    rw [substitutedIn, commandsThrough, (walked tree (.head _)).substituted_eq first,
      ih later fun t among => walked t (.tail _ among)]

end

theorem commandsThrough_append (contextOf : Nat → Context) (index : Nat) (front back : List Tree) :
    commandsThrough contextOf index (front ++ back) =
      commandsThrough contextOf index front ++
        commandsThrough contextOf (index + front.length) back := by
  induction front generalizing index with
  | nil => rfl
  | cons tree rest ih =>
    rw [List.cons_append, commandsThrough, commandsThrough, ih, List.append_assoc, List.length_cons,
      Nat.add_right_comm, Nat.add_assoc]

theorem commandsThrough_singleton (contextOf : Nat → Context) (index : Nat) (tree : Tree) :
    commandsThrough contextOf index [tree] = tree.commands (contextOf index) := by
  rw [commandsThrough, commandsThrough, List.append_nil]

/-- A sign between stages invokes nothing. -/
theorem Tree.commands_of_isPipe {tree : Tree} (sign : tree.isPipe) (context : Context) :
    tree.commands context = [] := by
  cases tree with
  | pipe => rfl
  | _ => cases sign

/-- The stages of a pipeline after some of its parts: the first stage is still to come when only
signs went before. -/
theorem stageInvocations_eq {span : Span} {parts : List Tree} (statements : areStatements parts)
    (walked : ∀ tree ∈ parts, tree.Walked) (context : Context) (front back : List Tree)
    (split : parts = front ++ back) :
    stageInvocations context.piped context.nested (!front.any (!·.isPipe)) back =
      commandsThrough ((Tree.pipeline span parts).enter context) front.length back := by
  induction back generalizing front with
  | nil => rfl
  | cons tree rest ih =>
    have later := ih (front ++ [tree]) (by rw [split, List.append_assoc, List.singleton_append])
    rw [List.length_append, List.length_singleton, List.any_append, List.any_cons, List.any_nil,
      Bool.or_false] at later
    rw [stageInvocations, commandsThrough]
    cases sign : tree.isPipe with
    | true =>
      rw [sign, Bool.not_true, Bool.or_false] at later
      rw [if_pos rfl, Tree.commands_of_isPipe sign, List.nil_append, later]
    | false =>
      rw [sign, Bool.not_false, Bool.or_true, Bool.not_true] at later
      have place : (Tree.pipeline span parts).enter context front.length =
          { context with piped := context.piped || front.any (!·.isPipe) } := by
        rw [Tree.enter, split, List.take_left]
      have among : tree ∈ parts := split ▸ List.mem_append_right front (.head _)
      rw [if_neg Bool.false_ne_true, Bool.not_not, later, place,
        ← (walked tree among).invocations_eq (areStatements_iff.1 statements tree among)]

/-- **The walk follows the paths.** -/
theorem Tree.walked (tree : Tree) : tree.Walked := by
  induction tree using Tree.childInduction with
  | step tree ih =>
    cases tree with
    | command span parts =>
      refine ⟨fun elements context => ?_, fun element => by cases element⟩
      rw [Tree.invocations, Tree.commands_eq, substitutedIn_eq elements ih]
      rfl
    | word span text parts | assignment span text parts =>
      refine ⟨fun elements context => ?_, fun elements context => ?_⟩
      · rw [Tree.invocations, Tree.commands_eq, substitutedIn_eq elements ih]
        rfl
      · rw [Tree.substituted, Tree.commands_eq, substitutedIn_eq elements ih]
        rfl
    | redirect span source sign target =>
      have inside := (ih target (.head _)).substituted_eq
      refine ⟨fun element context => ?_, fun element context => ?_⟩
      · rw [Tree.invocations, Tree.commands_eq, Tree.children, commandsThrough_singleton]
        exact inside element context
      · rw [Tree.substituted, Tree.commands_eq, Tree.children, commandsThrough_singleton]
        exact inside element context
    | commandSubstitution span body | processSubstitution span body =>
      have inside := (ih body (.head _)).invocations_eq
      refine ⟨fun statement => (by cases statement), fun statement context => ?_⟩
      rw [Tree.substituted, Tree.commands_eq, Tree.children, commandsThrough_singleton]
      exact inside statement ⟨false, true⟩
    | pipeline span parts =>
      refine ⟨fun statements context => ?_, fun element => by cases element⟩
      rw [Tree.invocations, Tree.commands_eq]
      exact stageInvocations_eq statements ih context [] parts rfl
    | statements span parts | clause kind span parts | function span parts =>
      refine ⟨fun statements context => ?_, fun element => by cases element⟩
      rw [Tree.invocations, Tree.commands_eq, invocationsIn_eq statements ih]
      rfl
    | compound span body redirects =>
      refine ⟨fun both context => ?_, fun element => by cases element⟩
      obtain ⟨statements, elements⟩ := Bool.and_eq_true_iff.1 both
      have inside := invocationsIn_eq statements
        (fun tree among => ih tree (List.mem_append_left _ among))
        { context with nested := context.nested || opensSubshell body } 0
      -- redirections run substitutions only, and those make a context of their own
      have after := substitutedIn_eq elements
        fun tree among => ih tree (List.mem_append_right _ among)
      rw [Tree.invocations, Tree.commands_eq, inside, after, Tree.children, commandsThrough_append]
      rfl
    | reserved | operator | pipe | parameter | tilde | document | channel =>
      exact ⟨fun _ _ => rfl, fun _ _ => rfl⟩

end ShellVet.Shell
