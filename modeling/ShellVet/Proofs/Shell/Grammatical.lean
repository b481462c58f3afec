import ShellVet.Shell.Invocation

/-!
# Grammatical trees

The grammar puts trees in two kinds of places. Statements and their signs stand in pipelines, lists,
clauses and compound commands; the elements of simple commands, with the expansions inside them,
stand in commands, in words and after redirections. A substitution is an element, a command is a
statement, and what a substitution runs is a statement again.
-/

namespace ShellVet.Shell

mutual

/-- Whether the tree may stand among statements. The words of a loop stand there too, but no
substitution outside a word. -/
def Tree.isStatement : Tree → Bool
  | .command _ parts | .word _ _ parts | .assignment _ _ parts => areElements parts
  | .redirect _ _ _ target => target.isElement
  | .pipeline _ parts | .statements _ parts | .clause _ _ parts | .function _ parts =>
    areStatements parts
  | .compound _ body redirects => areStatements body && areElements redirects
  | .commandSubstitution .. | .processSubstitution .. => false
  | .reserved .. | .operator .. | .pipe .. | .parameter .. | .tilde .. | .document ..
  | .channel .. => true

/-- Whether the tree may stand in a simple command or below one of its elements. -/
def Tree.isElement : Tree → Bool
  | .commandSubstitution _ body | .processSubstitution _ body => body.isStatement
  | .word _ _ parts | .assignment _ _ parts => areElements parts
  | .redirect _ _ _ target => target.isElement
  | .command .. | .pipeline .. | .statements .. | .compound .. | .clause .. | .function .. => false
  | .reserved .. | .operator .. | .pipe .. | .parameter .. | .tilde .. | .document ..
  | .channel .. => true

/-- Whether the trees may stand among statements. -/
def areStatements : List Tree → Bool
  | [] => true
  | tree :: rest => tree.isStatement && areStatements rest

/-- Whether the trees may stand in a simple command. -/
def areElements : List Tree → Bool
  | [] => true
  | tree :: rest => tree.isElement && areElements rest

end

section

variable {trees : List Tree} {tree : Tree}

theorem areStatements_iff : areStatements trees ↔ ∀ tree ∈ trees, tree.isStatement := by
  induction trees with
  | nil => simp [areStatements]
  | cons tree rest ih => simp [areStatements, ih]

theorem areElements_iff : areElements trees ↔ ∀ tree ∈ trees, tree.isElement := by
  induction trees with
  | nil => simp [areElements]
  | cons tree rest ih => simp [areElements, ih]

@[simp]
theorem areStatements_cons {rest : List Tree} :
    areStatements (tree :: rest) ↔ tree.isStatement ∧ areStatements rest := by
  rw [areStatements, Bool.and_eq_true]

@[simp]
theorem areElements_cons {rest : List Tree} :
    areElements (tree :: rest) ↔ tree.isElement ∧ areElements rest := by
  rw [areElements, Bool.and_eq_true]

end

end ShellVet.Shell
