import Mathlib.Data.List.Nodup
import Mathlib.Data.List.Pairwise
import Mathlib.Data.List.Perm.Basic
import ShellVet.Policy.Category

/-!
# Commands that are listed

Each command stands in the table of the categories once (`nodup_commands`). So it makes no
difference which of the entries of a name a look-up takes (`lookup_reverse_table`), a command is
allowed if and only if its name is listed as allowed, and the two lists part the table between them
(`listings_agree`).
-/

namespace ShellVet.Category

variable {category other : Category} {categories : List Category} {name command : String}

/-! ## Names of categories -/

theorem mem_all (category : Category) : category ∈ all := by
  cases category <;> decide

theorem ofName?_eq_some_iff : ofName? name = some category ↔ category.name = name := by
  constructor
  · intro named
    unfold ofName? at named
    simpa using List.find?_some named
  · rintro rfl
    cases category <;> decide

/-- A category is among those that are named if its name is among the names. -/
theorem mem_ofNames {names : List String} : category ∈ ofNames names ↔ category.name ∈ names := by
  unfold ofNames
  rw [List.mem_filterMap]
  constructor
  · rintro ⟨name, inside, named⟩
    rwa [ofName?_eq_some_iff.mp named]
  · intro inside
    exact ⟨category.name, inside, ofName?_eq_some_iff.mpr rfl⟩

/-! ## The table -/

/-- All commands with their categories, the least privileged first. -/
def table : List (String × Category) :=
  all.flatMap fun category => category.commands.map fun name => (name, category)

/-- The number that the bytes of a name spell. -/
def numberOf (name : String) : Nat :=
  name.toByteArray.data.toList.foldl (fun number byte => number * 256 + byte.toNat) 0

/-- Whether no number comes again in a row. -/
def areApart : List Nat → Bool
  | [] => true
  | number :: rest => rest.all (fun other => !number.beq other) && areApart rest

theorem nodup_of_areApart {numbers : List Nat} (apart : areApart numbers = true) :
    numbers.Nodup := by
  induction numbers with
  | nil => exact List.nodup_nil
  | cons number rest ih =>
    obtain ⟨differ, apart⟩ := (Bool.and_eq_true _ _).mp apart
    refine List.nodup_cons.mpr ⟨fun again => ?_, ih apart⟩
    have differs := List.all_eq_true.mp differ number again
    rw [Nat.beq_refl] at differs
    cases differs

theorem nodup_commands : (all.flatMap commands).Nodup := by
  -- numbers are compared much faster than texts, and there are many pairs of names
  have apart : areApart ((all.flatMap commands).map numberOf) = true := by decide +kernel
  exact List.Nodup.of_map numberOf (nodup_of_areApart apart)

/-- A command is in one category only. -/
theorem eq_of_mem_commands (inside : name ∈ category.commands) (within : name ∈ other.commands) :
    category = other := by
  by_contra different
  rcases List.nodup_flatMap.mp nodup_commands with ⟨-, apart⟩
  have symmetric : Std.Symm (Function.onFun List.Disjoint commands) :=
    ⟨fun _ _ disjoint _ there here => disjoint here there⟩
  have disjoint : List.Disjoint category.commands other.commands :=
    apart.forall (mem_all category) (mem_all other) different
  exact disjoint inside within

theorem mem_table : (name, category) ∈ table ↔ name ∈ category.commands := by
  unfold table
  simp [mem_all]

theorem ofCommand?_eq_some_iff :
    ofCommand? command = some category ↔ normalName command ∈ category.commands := by
  constructor
  · intro found
    simpa using List.find?_some found
  · intro inside
    cases found : ofCommand? command with
    | none =>
      have absent := List.find?_eq_none.mp found category (mem_all category)
      exact absurd (List.contains_iff_mem.mpr inside) absent
    | some known =>
      have within : normalName command ∈ known.commands := by simpa using List.find?_some found
      rw [eq_of_mem_commands within inside]

theorem mem_commands_of_lookup (found : table.reverse.lookup name = some category) :
    name ∈ category.commands := by
  rcases List.lookup_eq_some_iff.mp found with ⟨before, after, whole, -⟩
  rw [← mem_table, ← List.mem_reverse, whole]
  exact List.mem_append_right before List.mem_cons_self

/-- A look-up that takes the last entry of a name finds the category, as one that takes the
first. -/
theorem lookup_reverse_table (command : String) :
    table.reverse.lookup (normalName command) = ofCommand? command := by
  refine Option.ext fun category => ?_
  rw [ofCommand?_eq_some_iff]
  refine ⟨mem_commands_of_lookup, fun inside => ?_⟩
  cases found : table.reverse.lookup (normalName command) with
  | none =>
    have listed := List.mem_reverse.mpr (mem_table.mpr inside)
    have absent := List.lookup_eq_none_iff.mp found _ listed
    exact absurd absent (by simp)
  | some known => rw [eq_of_mem_commands inside (mem_commands_of_lookup found)]

/-! ## Lists of commands -/

theorem mem_allowedCommands :
    name ∈ allowedCommands categories ↔ ∃ category ∈ categories, name ∈ category.commands := by
  unfold allowedCommands
  simp [mem_all]

theorem allow_iff : allow categories command false = true ↔
    normalName command ∈ allowedCommands categories := by
  rw [mem_allowedCommands]
  unfold allow
  cases found : ofCommand? command with
  | none =>
    refine ⟨nofun, ?_⟩
    rintro ⟨category, -, inside⟩
    rw [ofCommand?_eq_some_iff.mpr inside] at found
    cases found
  | some known =>
    have within := ofCommand?_eq_some_iff.mp found
    dsimp only
    rw [List.contains_iff_mem]
    constructor
    · intro allowed
      exact ⟨known, allowed, within⟩
    · rintro ⟨category, allowed, inside⟩
      rwa [eq_of_mem_commands within inside]

/-- Both lists depend only on which categories are given. -/
theorem lists_congr {others : List Category}
    (same : ∀ category, category ∈ categories ↔ category ∈ others) :
    allowedCommands categories = allowedCommands others ∧
      blockedCommands categories = blockedCommands others := by
  have contained (category : Category) :
      categories.contains category = others.contains category := by
    rw [Bool.eq_iff_iff, List.contains_iff_mem, List.contains_iff_mem, same category]
  unfold allowedCommands blockedCommands
  simp only [contained, and_self]

/-- The two lists are the table in another order. -/
theorem allowed_append_blocked_perm (categories : List Category) :
    (allowedCommands categories ++ blockedCommands categories).Perm (all.flatMap commands) := by
  unfold allowedCommands blockedCommands
  rw [← List.flatMap_append]
  exact (List.filter_append_perm _ all).flatMap_right commands

/-- **What is allowed and what is listed.** For all names of categories, in any order, some of them
repeated and some unknown: a command is allowed if and only if it is listed as allowed when trimmed
and in lower case, whether the first or the last entry of its name counts; the commands that are
listed as allowed and as blocked come once each, and are those of the table; and both lists depend
only on which categories are named. -/
theorem listings_agree (names : List String) :
    let categories := ofNames names
    (∀ command,
      let name := String.ofList (Text.lower (Text.trim command.toList))
      (allow categories command false = true ↔ name ∈ allowedCommands categories) ∧
        table.reverse.lookup name = ofCommand? command) ∧
    (allowedCommands categories).Nodup ∧ (blockedCommands categories).Nodup ∧
    (allowedCommands categories).Disjoint (blockedCommands categories) ∧
    (∀ name, name ∈ allowedCommands categories ∨ name ∈ blockedCommands categories ↔
      ∃ category : Category, name ∈ category.commands) ∧
    ∀ others, (∀ category : Category, category.name ∈ names ↔ category.name ∈ others) →
      allowedCommands categories = allowedCommands (ofNames others) ∧
      blockedCommands categories = blockedCommands (ofNames others) := by
  intro categories
  have perm := allowed_append_blocked_perm categories
  rcases List.nodup_append'.mp (perm.nodup_iff.mpr nodup_commands) with
    ⟨allowedOnce, blockedOnce, disjoint⟩
  refine ⟨fun command => ⟨allow_iff, lookup_reverse_table command⟩, allowedOnce, blockedOnce,
    disjoint, fun name => ?_, fun others same => ?_⟩
  · rw [← List.mem_append, perm.mem_iff, List.mem_flatMap]
    simp [mem_all]
  · exact lists_congr fun category => by rw [mem_ofNames, mem_ofNames, same category]

/-- The safe category named twice beside a name of none, against the safe category alone. -/
theorem listings_agree_repeated :
    (∀ category : Category, category.name ∈ ["SAFE", "safe", "SAFE"] ↔ category.name ∈ ["SAFE"]) ∧
      allowedCommands (ofNames ["SAFE", "safe", "SAFE"]) = allowedCommands (ofNames ["SAFE"]) := by
  have same : ∀ category : Category,
      category.name ∈ ["SAFE", "safe", "SAFE"] ↔ category.name ∈ ["SAFE"] := by
    intro category
    cases category <;> decide
  rcases listings_agree ["SAFE", "safe", "SAFE"] with ⟨-, -, -, -, -, depends⟩
  exact ⟨same, (depends ["SAFE"] same).1⟩

end ShellVet.Category
