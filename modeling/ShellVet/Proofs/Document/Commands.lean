import Mathlib.Data.List.Forall2
import ShellVet.Document.Commands

/-!
# Where the commands of a document stand

A path leads from a document down through members and items, which are numbered from zero. A text is
a command when the last key on the path to it is one that commands stand under; the items it passes
after that key do not count. The walk over a document lists the texts of all such paths, each path
once and in lexicographic order, which is the order of the document (`commands_eq_texts`).
-/

namespace ShellVet.Document

/-! ## Paths -/

/-- What stands right below a document: items, and the values of members with their keys. -/
def children : Document → List (Option Document × Document)
  | .list items | .tuple items => items.map fun item => (none, item)
  | .map members => members.map fun member => (some member.1, member.2)
  | _ => []

/-- The document a path leads to. -/
def at? (document : Document) : List Nat → Option Document
  | [] => some document
  | index :: path => document.children[index]?.bind fun child => child.2.at? path

/-- The keys on a path, from the root on. -/
def keysAlong (document : Document) : List Nat → List Document
  | [] => []
  | index :: path =>
    (document.children[index]?.map fun child => child.1.toList ++ child.2.keysAlong path).getD []

/-- The path leads to the text, and the last key on it is one that commands stand under. -/
def CommandAt (document : Document) (path : List Nat) (text : CodeText) : Prop :=
  document.at? path = some (.text text) ∧
    ∃ name ∈ commandKeys, (document.keysAlong path).getLast? = some (.text name)

mutual

/-- Induction on a document along its children. -/
theorem childInduction {P : Document → Prop}
    (step : ∀ document, (∀ child ∈ document.children, P child.2) → P document) :
    (document : Document) → P document
  | .list items => step _ fun child among => by
      obtain ⟨item, member, rfl⟩ := List.mem_map.1 among
      exact childInductionIn step items item member
  | .tuple items => step _ fun child among => by
      obtain ⟨item, member, rfl⟩ := List.mem_map.1 among
      exact childInductionIn step items item member
  | .map members => step _ fun child among => by
      obtain ⟨member, listed, rfl⟩ := List.mem_map.1 among
      exact childInductionOf step members member listed
  | .null | .bool _ | .int _ | .float _ | .text _ | .set _ | .bytes _ | .date _ | .moment _ =>
    step _ fun _ among => absurd among List.not_mem_nil

theorem childInductionIn {P : Document → Prop}
    (step : ∀ document, (∀ child ∈ document.children, P child.2) → P document) :
    (items : List Document) → ∀ item ∈ items, P item
  | [] => fun _ among => absurd among List.not_mem_nil
  | first :: rest => fun item among =>
    (List.mem_cons.1 among).elim (fun same => same ▸ childInduction step first)
      (childInductionIn step rest item)

theorem childInductionOf {P : Document → Prop}
    (step : ∀ document, (∀ child ∈ document.children, P child.2) → P document) :
    (members : List (Document × Document)) → ∀ member ∈ members, P member.2
  | [] => fun _ among => absurd among List.not_mem_nil
  | (_, value) :: rest => fun member among =>
    (List.mem_cons.1 among).elim (fun same => same ▸ childInduction step value)
      (childInductionOf step rest member)

end

/-! ## The walk below one document -/

/-- Whether commands stand below a key, if there is one; items keep what held above them. -/
def enters (under : Bool) (key? : Option Document) : Bool :=
  (key?.map isCommandKey).getD under

/-- The commands below children in a row. -/
def commandsBelow (under : Bool) (row : List (Option Document × Document)) : List CodeText :=
  row.flatMap fun child => child.2.commandsFrom (enters under child.1)

theorem commandsOfItems_eq (under : Bool) (items : List Document) :
    commandsOfItems under items = commandsBelow under (items.map fun item => (none, item)) := by
  induction items with
  | nil => rfl
  | cons item items ih =>
    rw [commandsOfItems, ih]
    rfl

theorem commandsOfMembers_eq (under : Bool) (members : List (Document × Document)) :
    commandsOfMembers members =
      commandsBelow under (members.map fun member => (some member.1, member.2)) := by
  induction members with
  | nil => rfl
  | cons member members ih =>
    rw [commandsOfMembers, ih]
    rfl

/-- A document that is no text has the commands of its children. -/
theorem commandsFrom_eq (under : Bool) {document : Document}
    (inner : ∀ text, document ≠ .text text) :
    document.commandsFrom under = commandsBelow under document.children := by
  cases document with
  | text value => exact absurd rfl (inner value)
  | list items | tuple items => exact commandsOfItems_eq under items
  | map members => exact commandsOfMembers_eq under members
  | _ => rfl

/-! ## The walk follows the paths -/

/-- The path leads to the text, and commands stand under the last key on it; without a key on it, as
they do above the document. -/
def TextAt (under : Bool) (document : Document) (path : List Nat) (text : CodeText) : Prop :=
  document.at? path = some (.text text) ∧ enters under (document.keysAlong path).getLast? = true

variable {under : Bool} {document : Document} {path : List Nat}

/-- A path through a child is one in that child, under its key. -/
theorem textAt_cons_iff {child : Option Document × Document} {index : Nat}
    (found : document.children[index]? = some child) {text : CodeText} :
    document.TextAt under (index :: path) text ↔
      child.2.TextAt (enters under child.1) path text := by
  have last (keys : List Document) : enters under (child.1.toList ++ keys).getLast? =
      enters (enters under child.1) keys.getLast? := by
    rw [List.getLast?_append]
    cases keys.getLast? with
    | some key => rfl
    | none => cases child.1 <;> rfl
  rw [TextAt, TextAt, at?, keysAlong, found, Option.bind_some, Option.map_some, Option.getD_some,
    last]

/-- The paths are those of the texts among the commands, in the order of the document. -/
structure Lists (under : Bool) (document : Document) (paths : List (List Nat)) : Prop where
  ordered : paths.Pairwise (· < ·)
  complete : ∀ path text, document.TextAt under path text → path ∈ paths
  texts : List.Forall₂ (document.TextAt under) paths (document.commandsFrom under)

/-- The paths through the children from a number on. -/
structure ListsFrom (under : Bool) (document : Document) (first : Nat) (paths : List (List Nat)) :
    Prop where
  ordered : paths.Pairwise (· < ·)
  through : ∀ path ∈ paths, ∃ index below, first ≤ index ∧ path = index :: below
  complete : ∀ index below text, first ≤ index →
    document.TextAt under (index :: below) text → index :: below ∈ paths
  texts : List.Forall₂ (document.TextAt under) paths
    (commandsBelow under (document.children.drop first))

/-- The paths through one child come before those through the later ones. -/
theorem ListsFrom.cons {child : Option Document × Document} {first : Nat}
    {firsts later : List (List Nat)} (found : document.children[first]? = some child)
    (here : child.2.Lists (enters under child.1) firsts)
    (rest : document.ListsFrom under (first + 1) later) :
    document.ListsFrom under first (firsts.map (first :: ·) ++ later) where
  ordered := by
    refine List.pairwise_append.2 ⟨?_, rest.ordered, ?_⟩
    · refine here.ordered.map _ fun left right less => ?_
      exact List.cons_lt_cons_iff.2 (.inr ⟨rfl, less⟩)
    · intro left fromFirst right fromRest
      obtain ⟨below, -, rfl⟩ := List.mem_map.1 fromFirst
      obtain ⟨index, below', atLeast, rfl⟩ := rest.through right fromRest
      exact List.cons_lt_cons_iff.2 (.inl atLeast)
  through := by
    intro path among
    rcases List.mem_append.1 among with fromFirst | fromRest
    · obtain ⟨below, -, rfl⟩ := List.mem_map.1 fromFirst
      exact ⟨first, below, Nat.le_refl _, rfl⟩
    · obtain ⟨index, below, atLeast, rfl⟩ := rest.through path fromRest
      exact ⟨index, below, Nat.le_of_succ_le atLeast, rfl⟩
  complete := by
    intro index below text atLeast holds
    rcases Nat.eq_or_lt_of_le atLeast with rfl | later
    · have inside := here.complete below text ((textAt_cons_iff found).1 holds)
      exact List.mem_append_left _ (List.mem_map_of_mem inside)
    · exact List.mem_append_right _ (rest.complete index below text later holds)
  texts := by
    obtain ⟨inside, same⟩ := List.getElem?_eq_some_iff.1 found
    rw [List.drop_eq_getElem_cons inside, same]
    refine List.rel_append ?_ rest.texts
    rw [List.forall₂_map_left_iff]
    exact here.texts.imp fun _ _ => (textAt_cons_iff found).2

theorem exists_listsFrom (under : Bool)
    (listed : ∀ child ∈ document.children, ∀ under, ∃ paths, child.2.Lists under paths)
    (left : Nat) :
    ∀ first, document.children.length = first + left →
      ∃ paths, document.ListsFrom under first paths := by
  induction left with
  | zero =>
    intro first done
    refine ⟨[], .nil, nofun, fun index below text atLeast holds => ?_, ?_⟩
    · have none : document.children[index]? = none := List.getElem?_eq_none (by omega)
      rw [TextAt, at?, none] at holds
      cases holds.1
    · rw [List.drop_eq_nil_of_le (by omega)]
      exact .nil
  | succ left ih =>
    intro first more
    have inside : first < document.children.length := by omega
    obtain ⟨firsts, here⟩ := listed _ (List.getElem_mem inside) (enters under _)
    obtain ⟨later, rest⟩ := ih (first + 1) (by omega)
    exact ⟨_, rest.cons (List.getElem?_eq_getElem inside) here⟩

/-- A text is a command where commands stand. -/
theorem exists_lists_text (under : Bool) (value : CodeText) :
    ∃ paths, (Document.text value).Lists under paths := by
  have only : ∀ path text, (Document.text value).TextAt under path text →
      path = [] ∧ under = true := by
    rintro (_ | ⟨index, below⟩) text ⟨found, stands⟩
    · exact ⟨rfl, stands⟩
    · cases found
  cases under with
  | false =>
    refine ⟨[], .nil, fun path text holds => ?_, .nil⟩
    cases (only path text holds).2
  | true =>
    refine ⟨[[]], List.pairwise_singleton _ _, fun path text holds => ?_, .cons ⟨rfl, rfl⟩ .nil⟩
    exact List.mem_singleton.2 (only path text holds).1

/-- **The walk follows the paths.** -/
theorem exists_lists (document : Document) : ∀ under, ∃ paths, document.Lists under paths := by
  induction document using childInduction with
  | step document ih =>
    intro under
    by_cases leaf : ∃ value, document = .text value
    · obtain ⟨value, rfl⟩ := leaf
      exact exists_lists_text under value
    · have inner : ∀ value, document ≠ .text value := fun value same => leaf ⟨value, same⟩
      obtain ⟨paths, ordered, -, complete, texts⟩ :=
        exists_listsFrom under ih document.children.length 0 (Nat.zero_add _).symm
      refine ⟨paths, ordered, ?_, ?_⟩
      · rintro (_ | ⟨index, below⟩) text holds
        · exact absurd (Option.some.inj holds.1) (inner text)
        · exact complete index below text (Nat.zero_le _) holds
      · rwa [commandsFrom_eq under inner]

/-! ## Extraction -/

/-- Above the document no commands stand, so there has to be a key on the path. -/
theorem textAt_false_iff {text : CodeText} :
    document.TextAt false path text ↔ document.CommandAt path text := by
  refine and_congr_right fun _ => ?_
  rw [enters]
  cases (document.keysAlong path).getLast? with
  | none => simp
  | some key =>
    cases key with
    | text name => simp [isCommandKey]
    | _ => simp [isCommandKey]

theorem commandsOfItems_texts (texts : List CodeText) :
    commandsOfItems true (texts.map .text) = texts := by
  induction texts with
  | nil => rfl
  | cons text texts ih =>
    rw [List.map_cons, commandsOfItems, ih]
    rfl

/-- **The commands are the texts under command keys.** The paths to texts whose last key is one that
commands stand under, in the order of the document, lead to its commands, one by one. So a document
that holds just these commands, under a command key, has the same ones. -/
theorem commands_eq_texts (document : Document) :
    (∃ paths : List (List Nat), paths.Pairwise (· < ·) ∧
      (∀ path, path ∈ paths ↔ ∃ text, document.CommandAt path text) ∧
      List.Forall₂ document.CommandAt paths document.commands) ∧
    (Document.map [(.text "commands", .list (document.commands.map .text))]).commands =
      document.commands := by
  constructor
  · obtain ⟨paths, ordered, complete, texts⟩ := exists_lists document false
    have commands : List.Forall₂ document.CommandAt paths document.commands :=
      texts.imp fun _ _ => textAt_false_iff.1
    refine ⟨paths, ordered, fun path => ⟨fun among => ?_, ?_⟩, commands⟩
    · obtain ⟨index, inside, rfl⟩ := List.getElem_of_mem among
      exact ⟨_, commands.get inside (commands.length_eq ▸ inside)⟩
    · rintro ⟨text, holds⟩
      exact complete path text (textAt_false_iff.2 holds)
  · have stands : (Document.text "commands").isCommandKey = true := by decide
    rw [commands, commandsFrom, commandsOfMembers, commandsOfMembers, stands, commandsFrom,
      commandsOfItems_texts, List.append_nil]

/-- Items under a command key count, and another key below it ends what it stands for. -/
example :
    (Document.map
      [(.text "commands", .list [.text "a", .tuple [.text "b"], .map [(.int 1, .text "c")]]),
        (.text "steps", .list [.text "d", .map [(.text "post_install", .text "e")]])]).commands =
      ["a", "b", "e"] := by
  decide

end ShellVet.Document
