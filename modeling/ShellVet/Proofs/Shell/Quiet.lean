import ShellVet.Proofs.Shell.Parsed
import ShellVet.Proofs.Shell.Paths

/-!
# Texts without command substitutions

A command substitution is written in a text when a dollar stands before an opening parenthesis, line
continuations between them left out, or when there are two graves. Reading keeps a text without
either quiet, words and the insides of substitutions included, so no command substitution is below
the trees of a quiet text (`not_substitutes_of_quiet`).
-/

namespace ShellVet.Shell

/-! ## Dollars before parentheses -/

/-- Whether an opening parenthesis comes next when line continuations are left out. The number
counts the backslashes that wait for their line end. -/
def opensAfter (waiting : Nat) : List Char → Bool
  | [] => false
  | c :: rest =>
    if c = '\\' then opensAfter (waiting + 1) rest
    else if c = '\n' then waiting ≠ 0 && opensAfter (waiting - 1) rest
    else c = '(' && waiting = 0

/-- Whether a dollar stands before an opening parenthesis when line continuations are left out. -/
def marksCommand : List Char → Bool
  | [] => false
  | c :: rest => c = '$' && opensAfter 0 rest || marksCommand rest

/-- Whether line continuations stand between a dollar and an opening parenthesis. -/
def splitsMark : List Char → Bool
  | [] => false
  | c :: rest => c = '$' && rest.head? = some '\\' && opensAfter 0 rest || splitsMark rest

section

variable {text joined : List Char}

/-- What comes after the first character may be exchanged for what opens wherever it does. -/
theorem opensAfter_cons {waiting : Nat} {c : Char}
    (opens : ∀ waiting, opensAfter waiting text = true → opensAfter waiting joined = true)
    (front : opensAfter waiting (c :: text) = true) : opensAfter waiting (c :: joined) = true := by
  rw [opensAfter] at front ⊢
  split at front
  case isTrue backslash => rw [if_pos backslash, opens _ front]
  case isFalse backslash =>
    rw [if_neg backslash]
    split at front
    case isTrue lineEnd =>
      rw [Bool.and_eq_true] at front
      rw [if_pos lineEnd, front.1, opens _ front.2, Bool.and_self]
    case isFalse lineEnd => rw [if_neg lineEnd, front]

theorem opensAfter_append (back : List Char) {waiting : Nat}
    (opens : opensAfter waiting text = true) : opensAfter waiting (text ++ back) = true := by
  induction text generalizing waiting with
  | nil => cases opens
  | cons c rest ih => exact opensAfter_cons (fun _ => ih) opens

/-- Line continuations that were joined are left out anyway. -/
theorem opensAfter_of_joins (joins : Joins text joined) {waiting : Nat}
    (opens : opensAfter waiting joined = true) : opensAfter waiting text = true := by
  induction joins generalizing waiting with
  | refl text => exact opens
  | continuation text => simpa [opensAfter] using opens
  | cons c _ ih => exact opensAfter_cons (fun _ => ih) opens
  | trans _ _ first second => exact first (second opens)

/-- No parenthesis opens in line ends that were added. -/
theorem opensAfter_of_ended {ends waiting : Nat}
    (opens : opensAfter waiting (text ++ List.replicate ends '\n') = true) :
    opensAfter waiting text = true := by
  induction text generalizing waiting with
  | nil =>
    rw [List.nil_append] at opens
    induction ends generalizing waiting with
    | zero => exact opens
    | succ ends ih =>
      rw [List.replicate_succ, opensAfter, if_neg (by decide), if_pos rfl,
        Bool.and_eq_true] at opens
      cases ih opens.2
  | cons c rest ih => exact opensAfter_cons (fun _ => ih) opens

/-- So a dollar marks a command wherever it did in a rest that is exchanged so. -/
theorem marksCommand_cons {c : Char}
    (opens : opensAfter 0 text = true → opensAfter 0 joined = true)
    (marks : marksCommand text = true → marksCommand joined = true)
    (front : marksCommand (c :: text) = true) : marksCommand (c :: joined) = true := by
  simp only [marksCommand, Bool.or_eq_true, Bool.and_eq_true] at front ⊢
  exact front.imp (And.imp_right opens) marks

theorem marksCommand_append_right (back : List Char) (marks : marksCommand text = true) :
    marksCommand (text ++ back) = true := by
  induction text with
  | nil => cases marks
  | cons c rest ih => exact marksCommand_cons (opensAfter_append back) ih marks

theorem marksCommand_append_left (front : List Char) (marks : marksCommand text = true) :
    marksCommand (front ++ text) = true := by
  induction front with
  | nil => exact marks
  | cons c front ih => rw [List.cons_append, marksCommand, ih, Bool.or_true]

theorem marksCommand_of_joins (joins : Joins text joined) (marks : marksCommand joined = true) :
    marksCommand text = true := by
  induction joins with
  | refl text => exact marks
  | continuation text => simpa [marksCommand] using marks
  | cons c joins ih => exact marksCommand_cons (opensAfter_of_joins joins) ih marks
  | trans _ _ first second => exact first (second marks)

theorem marksCommand_of_ended {ends : Nat}
    (marks : marksCommand (text ++ List.replicate ends '\n') = true) :
    marksCommand text = true := by
  induction text with
  | nil =>
    rw [List.nil_append] at marks
    induction ends with
    | zero => exact marks
    | succ ends ih =>
      rw [List.replicate_succ, marksCommand] at marks
      exact ih (by simpa using marks)
  | cons c rest ih => exact marksCommand_cons opensAfter_of_ended ih marks

/-- A dollar that marks a command stands right before the parenthesis, or apart from it by line
continuations. -/
theorem infix_of_marksCommand (marks : marksCommand text = true) :
    splitsMark text = true ∨ ['$', '('] <:+: text := by
  induction text with
  | nil => cases marks
  | cons c rest ih =>
    rw [marksCommand, Bool.or_eq_true, Bool.and_eq_true] at marks
    rw [splitsMark]
    rcases marks with ⟨dollar, opens⟩ | marks
    · cases rest with
      | nil => cases opens
      | cons d rest =>
        by_cases backslash : d = '\\'
        · left
          rw [dollar, opens, backslash]
          rfl
        · right
          rw [opensAfter, if_neg backslash] at opens
          split at opens
          · cases opens
          · obtain rfl : c = '$' := of_decide_eq_true dollar
            obtain rfl : d = '(' := by simpa using opens
            exact (List.prefix_append ['$', '('] rest).isInfix
    · rcases ih marks with splits | stands
      · left
        rw [splits, Bool.or_true]
      · exact .inr (stands.trans (List.suffix_cons c rest).isInfix)

theorem count_grave_of_joins (joins : Joins text joined) :
    joined.count grave = text.count grave := by
  induction joins with
  | refl text => rfl
  | continuation text => simp [grave]
  | cons c _ ih => rw [List.count_cons, List.count_cons, ih]
  | trans _ _ first second => rw [second, first]

end

/-! ## Quiet texts -/

/-- No command substitution is written in the text. -/
structure Quiet (text : List Char) : Prop where
  unmarked : marksCommand text = false
  graves : text.count grave ≤ 1

theorem Quiet.infix {part text : List Char} (stands : part <:+: text) (quiet : Quiet text) :
    Quiet part := by
  obtain ⟨front, back, rfl⟩ := stands
  constructor
  · rw [← Bool.not_eq_true]
    intro marks
    have whole := marksCommand_append_right back (marksCommand_append_left front marks)
    rw [quiet.unmarked] at whole
    cases whole
  · exact Nat.le_trans (List.Sublist.count_le grave (List.IsInfix.sublist ⟨front, back, rfl⟩))
      quiet.graves

theorem Quiet.passed {before read after : List Char} (passed : Passes before read after)
    (quiet : Quiet before) : Quiet (read ++ after) := by
  obtain ⟨ends, joins⟩ := passed
  constructor
  · rw [← Bool.not_eq_true]
    intro marks
    have whole := marksCommand_of_ended (marksCommand_of_joins joins marks)
    rw [quiet.unmarked] at whole
    cases whole
  · have none : (List.replicate ends '\n').count grave = 0 := by
      simp [List.count_replicate, grave]
    rw [count_grave_of_joins joins, List.count_append, none]
    exact quiet.graves

/-! ## Trees of quiet texts -/

/-- Whether the tree is a command substitution. -/
def Tree.isCommandSubstitution : Tree → Bool
  | .commandSubstitution .. => true
  | _ => false

/-- Whether some path in the tree leads to a command substitution. -/
def Tree.substitutes (tree : Tree) : Bool :=
  tree.paths.any fun path => (tree.at? path).any (·.isCommandSubstitution)

theorem Tree.substitutes_iff {tree : Tree} :
    tree.substitutes = true ↔
      ∃ path node, tree.at? path = some node ∧ node.isCommandSubstitution = true := by
  rw [substitutes, List.any_eq_true]
  constructor
  · rintro ⟨path, -, holds⟩
    obtain ⟨node, leads, holds⟩ := (Option.any_eq_true _ _).1 holds
    exact ⟨path, node, leads, holds⟩
  · rintro ⟨path, node, leads, holds⟩
    exact ⟨path, (tree.mem_paths_iff path).2 (Option.isSome_of_eq_some leads), by rwa [leads]⟩

/-- A substitution is the tree itself or is in a child. -/
theorem Tree.substitutes_eq (tree : Tree) :
    tree.substitutes = (tree.isCommandSubstitution || tree.children.any (·.substitutes)) := by
  rw [Bool.eq_iff_iff, Bool.or_eq_true, List.any_eq_true, substitutes_iff]
  constructor
  · rintro ⟨_ | ⟨index, path⟩, node, leads, holds⟩
    · cases leads
      exact .inl holds
    · obtain ⟨child, found, leads⟩ := Option.bind_eq_some_iff.1 leads
      exact .inr ⟨child, List.mem_of_getElem? found, substitutes_iff.2 ⟨path, node, leads, holds⟩⟩
  · rintro (here | ⟨child, among, below⟩)
    · exact ⟨[], tree, rfl, here⟩
    · obtain ⟨index, found⟩ := List.getElem?_of_mem among
      obtain ⟨path, node, leads, holds⟩ := substitutes_iff.1 below
      exact ⟨index :: path, node, Option.bind_eq_some_iff.2 ⟨child, found, leads⟩, holds⟩

theorem Tree.substitutes_eq_false_iff {tree : Tree} :
    tree.substitutes = false ↔
      tree.isCommandSubstitution = false ∧ ∀ child ∈ tree.children, child.substitutes = false := by
  rw [substitutes_eq, Bool.or_eq_false_iff, List.any_eq_false]
  simp only [Bool.not_eq_true]

theorem mem_of_untilGrave {text : List Char} {before : Nat}
    (found : untilGrave text = some before) :
    grave ∈ text := by
  induction text using untilGrave.induct generalizing before with
  | case1 => cases found
  | case2 c rest ih =>
    rw [untilGrave, Option.map_eq_some_iff] at found
    obtain ⟨_, found, -⟩ := found
    exact .tail _ (.tail _ (ih found))
  | case3 rest _ => exact .head _
  | case4 c rest other away ih =>
    rw [untilGrave, if_neg away, Option.map_eq_some_iff] at found
    · obtain ⟨_, found, -⟩ := found
      exact .tail _ (ih found)
    · exact other

/-- A substitution cannot start in a quiet text. -/
theorem Quiet.not_startsSubstitution {text : List Char} (quiet : Quiet text) :
    startsSubstitution text = false := by
  rw [← Bool.not_eq_true]
  intro starts
  unfold startsSubstitution at starts
  split at starts
  case h_1 inner =>
    have unmarked := quiet.unmarked
    simp [marksCommand, opensAfter] at unmarked
  case h_2 c rest _ =>
    obtain ⟨accent, closed⟩ := Bool.and_eq_true_iff.1 starts
    obtain rfl : c = grave := of_decide_eq_true accent
    obtain ⟨_, found⟩ := Option.isSome_iff_exists.1 closed
    have second := List.count_pos_iff.2 (mem_of_untilGrave found)
    have graves := quiet.graves
    rw [List.count_cons_self] at graves
    omega
  case h_3 => cases starts

/-- Trees without substitutions are asked of quiet texts. -/
def quietly : TreeSpec := ⟨Quiet, (·.substitutes = false), (·.substitutes = false)⟩

theorem quietly_lawful : quietly.Lawful :=
  have whole {tree : Tree} (itself : tree.isCommandSubstitution = false)
      (below : ∀ child ∈ tree.children, child.substitutes = false) : tree.substitutes = false :=
    Tree.substitutes_eq_false_iff.2 ⟨itself, below⟩
  have below {tree : Tree} (none : tree.substitutes = false) :
      ∀ child ∈ tree.children, child.substitutes = false :=
    (Tree.substitutes_eq_false_iff.1 none).2
  { part := Quiet.infix
    passed := Quiet.passed
    reserved := fun _ _ => whole rfl nofun
    operator := fun _ _ => whole rfl nofun
    pipe := fun _ _ => whole rfl nofun
    parameter := fun _ _ => whole rfl nofun
    tilde := fun _ _ => whole rfl nofun
    channel := fun _ => whole rfl nofun
    commandSubstitution := by
      intro _ text _ quiet starts _
      rw [Quiet.not_startsSubstitution quiet] at starts
      cases starts
    processSubstitution := fun _ _ body => whole rfl (List.forall_mem_singleton.2 body)
    word := fun _ _ _ parts => ⟨whole rfl parts, whole rfl parts⟩
    assignment := fun _ _ _ parts => whole rfl parts
    redirect := fun _ _ _ _ target => whole rfl (List.forall_mem_singleton.2 target)
    command := fun _ _ parts => whole rfl parts
    pipeline := fun _ _ => ⟨fun none => below none, fun parts => whole rfl parts⟩
    statements := fun _ _ parts => whole rfl parts
    clause := fun _ _ _ parts => whole rfl parts
    function := fun _ _ parts => whole rfl parts
    compound := fun _ _ _ =>
      ⟨fun none => List.forall_mem_append.1 (below none),
        fun both => whole rfl (List.forall_mem_append.2 both)⟩ }

/-- No command substitution is in the statements of a quiet text. -/
theorem not_substitutes_of_quiet {text : String} {trees : List Tree} (quiet : Quiet text.toList)
    (readable : readTrees text = .ok trees) : ∀ tree ∈ trees, tree.substitutes = false :=
  quietly_lawful.of_readTrees quiet readable

end ShellVet.Shell
