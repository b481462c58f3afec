import ShellVet.Shell.Invocation
import Mathlib.Data.List.Basic

/-!
# Paths in a syntax tree

A path leads from the root of a tree down its children, which are numbered from zero. `Tree.paths`
lists the paths of a tree, a tree before what is below it. The list holds every path exactly once
(`Tree.mem_paths_iff`) and in lexicographic order (`Tree.paths_pairwise`), which is the order of the
nodes in the text.
-/

namespace ShellVet.Shell

/-! ## Children -/

/-- The trees right below a tree: the parts, the body and the redirections of a compound command,
the target of a redirection, the statement of a substitution. -/
def Tree.children : Tree → List Tree
  | .word _ _ parts | .assignment _ _ parts | .command _ parts | .pipeline _ parts
  | .statements _ parts | .clause _ _ parts | .function _ parts => parts
  | .compound _ body redirects => body ++ redirects
  | .redirect _ _ _ target => [target]
  | .commandSubstitution _ body | .processSubstitution _ body => [body]
  | .reserved .. | .operator .. | .pipe .. | .parameter .. | .tilde .. | .document ..
  | .channel .. => []

mutual

/-- The paths of a tree, in the order of the text. -/
def Tree.paths : Tree → List (List Nat)
  | .word _ _ parts | .assignment _ _ parts | .command _ parts | .pipeline _ parts
  | .statements _ parts | .clause _ _ parts | .function _ parts => [] :: pathsFrom 0 parts
  | .compound _ body redirects => [] :: (pathsFrom 0 body ++ pathsFrom body.length redirects)
  | .redirect _ _ _ target => [] :: target.paths.map (0 :: ·)
  | .commandSubstitution _ body | .processSubstitution _ body => [] :: body.paths.map (0 :: ·)
  | .reserved .. | .operator .. | .pipe .. | .parameter .. | .tilde .. | .document ..
  | .channel .. => [[]]

/-- The paths through children that are numbered from a number on. -/
def pathsFrom (index : Nat) : List Tree → List (List Nat)
  | [] => []
  | tree :: rest => tree.paths.map (index :: ·) ++ pathsFrom (index + 1) rest

end

theorem pathsFrom_append (index : Nat) (front back : List Tree) :
    pathsFrom index (front ++ back) =
      pathsFrom index front ++ pathsFrom (index + front.length) back := by
  induction front generalizing index with
  | nil => simp [pathsFrom]
  | cons tree rest ih =>
    rw [List.cons_append, pathsFrom, pathsFrom, ih, List.append_assoc, List.length_cons,
      Nat.add_right_comm, Nat.add_assoc]

/-- The empty path comes first, and every other path goes through a child. -/
theorem Tree.paths_eq (tree : Tree) : tree.paths = [] :: pathsFrom 0 tree.children := by
  cases tree with
  | compound span body redirects =>
    rw [Tree.paths, Tree.children, pathsFrom_append, Nat.zero_add]
  | redirect | commandSubstitution | processSubstitution =>
    simp [Tree.paths, Tree.children, pathsFrom]
  | _ => simp only [Tree.paths, Tree.children, pathsFrom]

mutual

/-- Induction on a tree along its children. -/
theorem Tree.childInduction {P : Tree → Prop}
    (step : ∀ tree, (∀ child ∈ tree.children, P child) → P tree) : (tree : Tree) → P tree
  | .word _ _ parts | .assignment _ _ parts | .command _ parts | .pipeline _ parts
  | .statements _ parts | .clause _ _ parts | .function _ parts =>
    step _ (childInductionIn step parts)
  | .compound _ body redirects =>
    step _ fun child among => (List.mem_append.1 among).elim
      (childInductionIn step body child) (childInductionIn step redirects child)
  | .redirect _ _ _ target =>
    step _ fun _ among => List.mem_singleton.1 among ▸ Tree.childInduction step target
  | .commandSubstitution _ body | .processSubstitution _ body =>
    step _ fun _ among => List.mem_singleton.1 among ▸ Tree.childInduction step body
  | .reserved .. | .operator .. | .pipe .. | .parameter .. | .tilde .. | .document ..
  | .channel .. => step _ fun _ among => absurd among List.not_mem_nil

theorem childInductionIn {P : Tree → Prop}
    (step : ∀ tree, (∀ child ∈ tree.children, P child) → P tree) :
    (trees : List Tree) → ∀ tree ∈ trees, P tree
  | [] => fun _ among => absurd among List.not_mem_nil
  | first :: rest => fun tree among =>
    (List.mem_cons.1 among).elim (fun same => same ▸ Tree.childInduction step first)
      (childInductionIn step rest tree)

end

/-! ## What a path leads to -/

/-- The tree a path leads to. -/
def Tree.at? (tree : Tree) : List Nat → Option Tree
  | [] => some tree
  | index :: path => tree.children[index]?.bind (·.at? path)

/-- The trees a path leaves behind, from the root on. -/
def Tree.above (tree : Tree) : List Nat → List Tree
  | [] => []
  | index :: path => tree :: (tree.children[index]?.map (·.above path)).getD []

theorem mem_pathsFrom_iff (index : Nat) (trees : List Tree) (path : List Nat) :
    path ∈ pathsFrom index trees ↔
      ∃ position child below, trees[position]? = some child ∧ below ∈ child.paths ∧
        path = (index + position) :: below := by
  induction trees generalizing index with
  | nil => simp [pathsFrom]
  | cons tree rest ih =>
    rw [pathsFrom, List.mem_append, List.mem_map, ih]
    constructor
    · rintro (⟨below, among, rfl⟩ | ⟨position, child, below, found, among, rfl⟩)
      · exact ⟨0, tree, below, rfl, among, rfl⟩
      · refine ⟨position + 1, child, below, found, among, ?_⟩
        rw [Nat.add_right_comm, Nat.add_assoc]
    · rintro ⟨_ | position, child, below, found, among, rfl⟩
      · cases found
        exact .inl ⟨below, among, rfl⟩
      · refine .inr ⟨position, child, below, found, among, ?_⟩
        rw [Nat.add_right_comm, Nat.add_assoc]

/-- The paths of a tree are those that lead somewhere. -/
theorem Tree.mem_paths_iff (tree : Tree) (path : List Nat) :
    path ∈ tree.paths ↔ (tree.at? path).isSome := by
  induction path generalizing tree with
  | nil => simp [Tree.paths_eq, Tree.at?]
  | cons index path ih =>
    rw [Tree.paths_eq, List.mem_cons, mem_pathsFrom_iff, Tree.at?]
    constructor
    · rintro (none | ⟨position, child, below, found, among, same⟩)
      · cases none
      · obtain ⟨rfl, rfl⟩ := List.cons.inj same
        rw [Nat.zero_add, found]
        exact (ih child).1 among
    · intro leads
      cases found : tree.children[index]? with
      | none =>
        rw [found] at leads
        cases leads
      | some child =>
        rw [found] at leads
        exact .inr ⟨index, child, path, found, (ih child).2 leads, by rw [Nat.zero_add]⟩

/-! ## Order -/

theorem head_of_mem_pathsFrom {index : Nat} {trees : List Tree} {path : List Nat}
    (among : path ∈ pathsFrom index trees) :
    ∃ first below, index ≤ first ∧ path = first :: below := by
  obtain ⟨position, _, below, -, -, rfl⟩ := (mem_pathsFrom_iff index trees path).1 among
  exact ⟨index + position, below, Nat.le_add_right index position, rfl⟩

theorem pathsFrom_pairwise {trees : List Tree}
    (sorted : ∀ tree ∈ trees, tree.paths.Pairwise (· < ·))
    (index : Nat) : (pathsFrom index trees).Pairwise (· < ·) := by
  induction trees generalizing index with
  | nil => exact .nil
  | cons tree rest ih =>
    rw [pathsFrom]
    refine List.pairwise_append.2 ⟨?_, ih (fun t among => sorted t (.tail _ among)) _, ?_⟩
    · refine (sorted tree (.head _)).map _ fun left right less => ?_
      exact List.cons_lt_cons_iff.2 (.inr ⟨rfl, less⟩)
    · intro left fromFirst right fromRest
      obtain ⟨below, -, rfl⟩ := List.mem_map.1 fromFirst
      obtain ⟨first, below', atLeast, rfl⟩ := head_of_mem_pathsFrom fromRest
      exact List.cons_lt_cons_iff.2 (.inl atLeast)

/-- The paths of a tree are in strict lexicographic order. -/
theorem Tree.paths_pairwise (tree : Tree) : tree.paths.Pairwise (· < ·) := by
  induction tree using Tree.childInduction with
  | step tree ih =>
    rw [Tree.paths_eq]
    refine List.pairwise_cons.2 ⟨fun path among => ?_, pathsFrom_pairwise ih 0⟩
    obtain ⟨first, below, -, rfl⟩ := head_of_mem_pathsFrom among
    exact List.nil_lt_cons first below

end ShellVet.Shell
